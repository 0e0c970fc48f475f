import NovaPuraRouter.BillingSpec

/-! A billed request from its reservation to its end, alone. Supplementary reservations
count as consumed but are not in the split: the two conditions below are about that. -/
namespace NovaPuraRouter.BillingExact
open CreditLot LotBook DeductSpec Grants Billing BillingSpec Option
open Funding hiding preConsume settle refund

structure ReserveCall where
  target : Int
  seen : Option Int
  now : Int

structure Course where
  db : Database
  session : BillingSession
  expired : Int

def expiredBy (db : Database) (id : Nat) (amount now : Int) : Int := match decreaseUserQuotaWithSplit db id amount now with
  | .error _ => 0
  | .ok (split,_) => split.expired

def reserveCall (cfg : Config) (c : Course) (call : ReserveCall) : Course :=
  let r := reserve cfg c.db c.session call.target call.seen call.now
  let expired := if c.session.raises call.target then
    expiredBy c.db c.session.funding.userId (call.target - c.session.preConsumedQuota) call.now else 0
  ⟨r.1,r.2.1,c.expired + expired⟩

def begun (db : Database) (s : BillingSession) : Course := ⟨db,s,s.funding.split.expired⟩

def settleExpired (c : Course) (actual now : Int) : Int :=
  if 0 < actual - c.session.preConsumedQuota then
    expiredBy c.db c.session.funding.userId (actual - c.session.preConsumedQuota) now else 0

structure PaidExactly (info : RelayInfo) (db db' : Database) (actual expired : Int) : Prop where
  quota : observedQuota db' info.userId = (observedQuota db info.userId).map (· + -(actual + expired))
  token : info.isPlayground = false → observedToken db' info.tokenId = (observedToken db info.tokenId).map (· + -actual)

def tokenShare (info : RelayInfo) (n : Int) : Int := if info.isPlayground then 0 else n

structure Running (db : Database) (info : RelayInfo) (e : Int) (c : Course) : Prop where
  lots : LotsOk c.db.lots
  who : c.session.info = info ∧ c.session.funding.userId = info.userId
  live : c.session.settled = false ∧ c.session.refunded = false ∧ c.session.fundingSettled = false
  reserved : c.session.preConsumedQuota = e + c.session.extraReserved
  token : c.session.tokenConsumed = tokenPart e + c.session.extraReserved
  consumed : c.session.funding.consumed = tokenPart e + c.session.extraReserved
  extra : 0 ≤ c.session.extraReserved
  split : WellSplit c.session.funding.split
  whole : c.session.funding.split.promo + c.session.funding.split.cash = tokenPart e
  charged : Charged info db c.db (-(tokenPart e + c.session.extraReserved + c.expired))
    (tokenShare info (-(tokenPart e + c.session.extraReserved)))

structure TokenHeld (info : RelayInfo) (db held : Database) (n : Int) : Prop where
  charged : Charged info db held 0 (tokenShare info (-n))
  users : held.users = db.users
  lots : held.lots = db.lots

variable {cfg : Config} {db db' : Database} {info : RelayInfo} {now : Int}

theorem tokenHeld {n seen held} (h : preConsumeTokenQuota cfg db info n seen = .ok held) : TokenHeld info db held n := by
  simp only [preConsumeTokenQuota,bindOk,requireOk] at h
  obtain ⟨_,_,h⟩ := h
  split at h
  · rename_i free
    cases pureOk.mp h
    exact ⟨by rw [tokenShare,if_pos free]; exact chargedNone info _,rfl,rfl⟩
  rename_i billed
  simp only [bindOk,decreaseTokenQuota,pureOk] at h
  obtain ⟨_,_,_,_,_,_,rfl⟩ := h
  obtain ⟨users,lots⟩ := tokenKept cfg db info.tokenId (-n)
  exact ⟨by rw [tokenShare,if_neg billed]; exact tokenCharged cfg info db (-n),users,lots⟩

theorem holdTokenSpec {e seen held} (h : holdToken cfg db info e seen = .ok held) : TokenHeld info db held (tokenPart e) := by
  unfold holdToken at h
  split at h
  · rename_i pos
    rw [tokenPart,if_pos pos]
    exact tokenHeld h
  rename_i small
  cases pureOk.mp h
  rw [tokenPart,if_neg small]
  refine ⟨chargedCast (chargedNone info _) rfl ?_,rfl,rfl⟩
  simp [tokenShare]

theorem reserveTokenSpec {n seen held} (pos : 0 < n) (h : reserveToken cfg db info n seen = .ok held) :
    TokenHeld info db held n := by
  unfold reserveToken at h
  split at h
  · rename_i free
    cases pureOk.mp h
    have play : info.isPlayground = true := free.resolve_left (by omega)
    refine ⟨chargedCast (chargedNone info _) rfl ?_,rfl,rfl⟩
    simp [tokenShare,play]
  · exact tokenHeld h

theorem preConsumeCases {quota seen s} (h : preConsume cfg db info quota seen now = (db',.ok s)) :
    ∃ held, holdToken cfg db info (effectiveQuota cfg info quota) seen = .ok held ∧ ∃ funding,
      s = ⟨info,funding,effectiveQuota cfg info quota,tokenPart (effectiveQuota cfg info quota),0,shouldTrust cfg info,false,false,false⟩ ∧
      ((effectiveQuota cfg info quota ≤ 0 ∧ db' = held ∧ funding = .fresh info.userId) ∨ (0 < effectiveQuota cfg info quota ∧ ∃ split,
          decreaseUserQuotaWithSplit held info.userId (effectiveQuota cfg info quota) now = .ok (split,db') ∧
          funding = ⟨info.userId,effectiveQuota cfg info quota,split⟩)) := by
  unfold preConsume at h
  simp only at h
  split at h
  · cases (Prod.mk.inj h).2
  rename_i held holds
  split at h
  · cases (Prod.mk.inj h).2
  rename_i funding taken done
  obtain ⟨rfl,same⟩ := Prod.mk.inj h
  refine ⟨held,holds,funding,(Except.ok.inj same).symm,?_⟩
  unfold Funding.preConsume at done
  split at done
  · rename_i small
    obtain ⟨rfl,rfl⟩ := Prod.mk.inj (pureOk.mp done)
    exact .inl ⟨small,rfl,rfl⟩
  simp only [bindOk,pureOk] at done
  obtain ⟨⟨split,_⟩,deducted,last⟩ := done
  obtain ⟨rfl,rfl⟩ := Prod.mk.inj last
  exact .inr ⟨by omega,split,deducted,rfl⟩

theorem runningStart {quota seen s} (ok : LotsOk db.lots)
    (h : preConsume cfg db info quota seen now = (db',.ok s)) : Running db info (effectiveQuota cfg info quota) (begun db' s) := by
  obtain ⟨held,holds,_,rfl,start⟩ := preConsumeCases h
  have hold := holdTokenSpec holds
  generalize effectiveQuota cfg info quota = e at *
  have heldOk : LotsOk held.lots := by rw [hold.lots]; exact ok
  obtain ⟨_,rfl,rfl⟩ | ⟨large,_,deducted,rfl⟩ := start
  · have zero : tokenPart e = 0 := if_neg (by omega)
    refine ⟨heldOk,⟨rfl,rfl⟩,⟨rfl,rfl,rfl⟩,by simp [begun],by simp [begun],by simp [begun,zero,WalletFunding.fresh],
      le_refl 0,wellNone,by simp [begun,zero,WalletFunding.fresh,QuotaWalletSplit.none],?_⟩
    refine chargedCast hold.charged ?_ ?_
    · simp [begun,zero,WalletFunding.fresh,QuotaWalletSplit.none]
    · simp [begun]
  · have part : tokenPart e = e := if_pos large
    obtain ⟨_,_⟩ | ⟨_,_,_,deducts⟩ := deductCases heldOk deducted
    · omega
    have cash := deducts.cash
    refine ⟨booksOk (deductsBooks deducts) heldOk,⟨rfl,rfl⟩,⟨rfl,rfl,rfl⟩,by simp [begun],by simp [begun],by simp [begun,part],
      le_refl 0,deductsWell deducts,by simp only [begun]; omega,?_⟩
    refine chargedCast (chargedTrans hold.charged (@deductCharged info _ _ _ _ _ heldOk deducted)) ?_ ?_
    · simp only [begun]
      omega
    · simp only [begun,add_zero]

inductive Raises (cfg : Config) (db : Database) (s : BillingSession) (delta now : Int) (seen : Option Int) :
    Database → BillingSession → Prop
  | refused {e} (failed : decreaseUserQuotaWithSplit db s.funding.userId delta now = .error e) :
      Raises cfg db s delta now seen db s
  | rolledBack {split taken back e} (took : decreaseUserQuotaWithSplit db s.funding.userId delta now = .ok (split,taken))
      (failed : reserveToken cfg taken s.info delta seen = .error e)
      (gave : increaseUserCashQuota cfg taken s.funding.userId delta false = .ok back) :
      Raises cfg db s delta now seen back { s with
        funding := { s.funding with consumed := s.funding.consumed + delta - delta } }
  | reserved {split taken held} (took : decreaseUserQuotaWithSplit db s.funding.userId delta now = .ok (split,taken))
      (holds : reserveToken cfg taken s.info delta seen = .ok held) :
      Raises cfg db s delta now seen held { s with
        funding := { s.funding with consumed := s.funding.consumed + delta }
        preConsumedQuota := s.preConsumedQuota + delta
        tokenConsumed := s.tokenConsumed + delta, extraReserved := s.extraReserved + delta }

theorem cashAlways (cfg db id) {n} (nonneg : 0 ≤ n) : ∃ db', increaseUserCashQuota cfg db id n false = .ok db' := by
  unfold increaseUserCashQuota
  simp only [bindOk,requireOk]
  split
  · exact ⟨db,(),nonneg,rfl⟩
  · split
    · exact ⟨_,(),nonneg,rfl⟩
    · exact ⟨_,(),nonneg,rfl⟩

theorem reserveSpec {s target} (seen now) (raises : s.raises target) :
    Raises cfg db s (target - s.preConsumedQuota) now seen (reserve cfg db s target seen now).1 (reserve cfg db s target seen now).2.1 := by
  have pos : 0 ≤ target - s.preConsumedQuota := by
    have := raises.2.2.2
    omega
  unfold reserve
  rw [if_neg (not_not_intro raises)]
  simp only [reserveFunding]
  cases took : decreaseUserQuotaWithSplit db s.funding.userId (target - s.preConsumedQuota) now with
  | error => exact .refused took
  | ok r =>
    obtain ⟨_,taken⟩ := r
    simp only [bind,Except.bind,pure,Except.pure]
    cases holds : reserveToken cfg taken s.info (target - s.preConsumedQuota) seen with
    | error =>
      obtain ⟨_,gave⟩ := cashAlways cfg taken s.funding.userId pos
      simp only [rollbackFundingReserve,gave]
      exact .rolledBack took holds gave
    | ok => exact .reserved took holds

theorem deductOk {id amount split} (ok : LotsOk db.lots)
    (h : decreaseUserQuotaWithSplit db id amount now = .ok (split,db')) : LotsOk db'.lots := by
  obtain ⟨_,_,rfl⟩ | ⟨_,_,_,deducts⟩ := deductCases ok h
  · exact ok
  · exact booksOk (deductsBooks deducts) ok

theorem expiredTook {id amount split} (took : decreaseUserQuotaWithSplit db id amount now = .ok (split,db')) :
    expiredBy db id amount now = split.expired := by
  simp only [expiredBy,took]

theorem reserveIdle {c call} (idle : ¬ c.session.raises call.target) : reserveCall cfg c call = c := by
  simp only [reserveCall,if_neg idle,reserve,if_pos idle,add_zero]

theorem runningStep {e} (c call) (h : Running db info e c) : Running db info e (reserveCall cfg c call) := by
  by_cases raises : c.session.raises call.target
  · have spec := @reserveSpec cfg c.db c.session call.target call.seen call.now raises
    have pos := raises.2.2.2
    simp only [reserveCall,if_pos raises]
    generalize (reserve cfg c.db c.session call.target call.seen call.now).1 = after at spec
    generalize (reserve cfg c.db c.session call.target call.seen call.now).2.1 = session at spec
    obtain ⟨sameInfo,sameUser⟩ := h.who
    cases spec with
    | refused failed =>
      have nothing : expiredBy c.db c.session.funding.userId (call.target - c.session.preConsumedQuota) call.now = 0 := by
        simp only [expiredBy,failed]
      refine { h with charged := chargedCast h.charged ?_ rfl }
      simp only
      omega
    | rolledBack took _ gave =>
      have something := expiredTook took
      rw [sameUser] at took gave
      have ⟨back,lots⟩ := cashCharged info gave
      have charged := chargedTrans h.charged (chargedTrans (deductCharged h.lots took) back)
      refine ⟨by rw [lots]; exact deductOk h.lots took,h.who,h.live,h.reserved,h.token,?_,h.extra,h.split,h.whole,
        chargedCast charged ?_ ?_⟩
      · have := h.consumed
        simp only
        omega
      · rw [something]
        simp only
        omega
      · simp only [add_zero]
    | reserved took holds =>
      have something := expiredTook took
      rw [sameUser] at took
      rw [sameInfo] at holds
      have held := reserveTokenSpec (by omega) holds
      have charged := chargedTrans h.charged (chargedTrans (deductCharged h.lots took) held.charged)
      have reserved := h.reserved
      have token := h.token
      have consumed := h.consumed
      have extra := h.extra
      refine ⟨by rw [held.lots]; exact deductOk h.lots took,h.who,h.live,?_,?_,?_,?_,h.split,h.whole,chargedCast charged ?_ ?_⟩
      · simp only
        omega
      · simp only
        omega
      · simp only
        omega
      · simp only
        omega
      · rw [something]
        simp only
        omega
      · unfold tokenShare
        split
        · rfl
        · simp only
          omega
  · rw [reserveIdle raises]
    exact h

theorem paidIff {user quota token actual expired}
    (owner : db.users.get? info.userId = some user) (charged : Charged info db db' (-quota) token)
    (share : quota = actual + expired → info.isPlayground = false → token = -actual) :
    PaidExactly info db db' actual expired ↔ quota = actual + expired := by
  have here : observedQuota db info.userId = some (user.quota + pendingUser db info.userId) := by
    rw [observedQuota,owner]
    rfl
  constructor
  · intro paid
    have both := charged.quota.symm.trans paid.quota
    rw [here] at both
    simp only [map_some,some.injEq] at both
    omega
  · intro same
    refine ⟨by rw [charged.quota,same],fun billed => ?_⟩
    rw [charged.token,share same billed]

theorem settleTokenCharged {delta paid} (h : settleToken cfg db info delta = .ok paid) :
    Charged info db paid 0 (tokenShare info (-delta)) := by
  unfold settleToken at h
  split at h
  · rename_i free
    cases pureOk.mp h
    rw [tokenShare,if_pos free]
    exact chargedNone info _
  · rename_i billed
    rw [tokenShare,if_neg billed]
    split at h
    · simp only [decreaseTokenQuota,bindOk,pureOk] at h
      obtain ⟨_,_,rfl⟩ := h
      exact tokenCharged cfg info db (-delta)
    · simp only [increaseTokenQuota,bindOk,pureOk] at h
      obtain ⟨_,_,rfl⟩ := h
      exact tokenCharged cfg info db (-delta)

/- What the wallet has paid once the session is settled: the whole delta upwards, downwards
at most the first reservation. -/
def settledQuota (e extra delta : Int) : Int :=
  if delta < 0 then tokenPart e + extra - max (min (min (-delta) (tokenPart e + extra)) (tokenPart e)) 0
  else tokenPart e + extra + delta

theorem settledQuotaIff {e extra actual} (nonneg : 0 ≤ extra) :
    settledQuota e extra (actual - (e + extra)) = actual ↔ 0 ≤ e ∧ extra ≤ actual := by
  unfold settledQuota tokenPart
  split <;> split <;> omega

theorem fundingSettled {e c delta funding taken user} (running : Running db info e c)
    (found : c.db.users.get? info.userId = some user) (something : delta ≠ 0)
    (h : settleFunding c.db c.session delta now = .ok (funding,taken)) :
    Charged info c.db taken (tokenPart e + c.session.extraReserved - settledQuota e c.session.extraReserved delta -
      if 0 < delta then expiredBy c.db c.session.funding.userId delta now else 0) 0 := by
  have ⟨_,_,open'⟩ := running.live
  have ⟨_,owner⟩ := running.who
  simp only [settleFunding,open',Bool.false_eq_true,if_false,Funding.settle,something,owner] at h
  split at h
  · rename_i up
    simp only [bindOk,pureOk] at h
    obtain ⟨⟨_,after⟩,took,last⟩ := h
    cases last
    refine chargedCast (deductCharged running.lots took) ?_ rfl
    rw [if_pos up,owner,expiredTook took,settledQuota,if_neg (by omega)]
    omega
  · rename_i down
    simp only [bindOk,pureOk] at h
    obtain ⟨_,gave,last⟩ := h
    cases last
    obtain ⟨well,parts⟩ := @takeWalletRefundSpec _ running.split.summed (min (-delta) c.session.funding.consumed)
    refine chargedCast (restoreCharged well found gave) ?_ rfl
    rw [parts,running.whole,running.consumed,if_neg down,settledQuota,if_pos (by omega)]
    omega

theorem observedUser {quota token user} (found : db.users.get? info.userId = some user)
    (charged : Charged info db db' quota token) : ∃ user', db'.users.get? info.userId = some user' := by
  have here := charged.quota
  simp only [observedQuota,found,map_some,map_eq_some_iff] at here
  obtain ⟨user',there,_⟩ := here
  exact ⟨user',there⟩

theorem settlePaid {e c user actual s} (running : Running db info e c)
    (owner : db.users.get? info.userId = some user) (h : settle cfg c.db c.session actual now = (db',s,.ok ())) :
    PaidExactly info db db' actual (c.expired + settleExpired c actual now) ↔ 0 ≤ e ∧ c.session.extraReserved ≤ actual := by
  have ⟨fresh,_⟩ := running.live
  have ⟨sameInfo,_⟩ := running.who
  have reserved := running.reserved
  have charged : Charged info db db'
      (-(settledQuota e c.session.extraReserved (actual - c.session.preConsumedQuota) + (c.expired + settleExpired c actual now)))
      (tokenShare info (e - tokenPart e - actual)) := by
    simp only [settle,fresh,Bool.false_eq_true,if_false] at h
    split at h
    · rename_i level
      obtain ⟨rfl,_⟩ := Prod.mk.inj h
      refine chargedCast running.charged ?_ ?_
      · rw [level,settleExpired,level]
        simp only [settledQuota,lt_irrefl,if_false]
        omega
      · congr 1
        omega
    · rename_i something
      split at h
      · cases (Prod.mk.inj (Prod.mk.inj h).2).2
      rename_i funding taken funded
      rw [sameInfo] at h
      split at h
      · cases (Prod.mk.inj (Prod.mk.inj h).2).2
      rename_i paid held
      obtain ⟨rfl,_⟩ := Prod.mk.inj h
      obtain ⟨_,found⟩ := observedUser owner running.charged
      refine chargedCast (chargedTrans running.charged (chargedTrans (fundingSettled running found something funded)
        (settleTokenCharged held))) ?_ ?_
      · simp only [settleExpired]
        omega
      · unfold tokenShare
        split
        · rfl
        · omega
  rw [reserved] at charged
  refine (paidIff owner charged ?_).trans ?_
  · intro _ billed
    have positive := (@settledQuotaIff e c.session.extraReserved actual running.extra).mp (by omega)
    simp only [tokenShare,billed,Bool.false_eq_true,if_false,tokenPart]
    split <;> omega
  · rw [← settledQuotaIff running.extra]
    omega

end NovaPuraRouter.BillingExact
