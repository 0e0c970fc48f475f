import NovaPuraRouter.BillingReturn
import NovaPuraRouter.Realtime

/-! What a realtime session takes from the wallet and the token. Its turns are charged one
by one and its sum is settled once more, less only the first reservation; a turn whose
charge failed stays in an accumulator that the close flushes again. So a session is charged
once when the model that was asked for is free, whatever the one it was mapped to costs. -/
namespace NovaPuraRouter.RealtimeCharge
open LotBook DeductSpec Billing BillingSpec BillingExact BillingReturn QuotaMath Realtime Option

def total (turns : List RealtimeUsage) : RealtimeUsage := turns.foldl RealtimeUsage.plus .empty

theorem totalAppend (turns u) : total (turns ++ [u]) = (total turns).plus u := by
  simp [total,List.foldl_append]

theorem emptyPlus (u) : RealtimeUsage.empty.plus u = u := by
  simp [RealtimeUsage.plus,RealtimeUsage.empty,TokenDetails.plus]

/- The session with its turns, each counted once, and the promotional credit that its
charges found expired. -/
structure Session where
  handler : Handler
  turns : List RealtimeUsage
  expired : Int

section Property
variable (cfg : Config) (info : RealtimeInfo)

def expiredTurn (db : Database) (usage : RealtimeUsage) (look : Look) : Int := match (preWssConsumeQuota cfg db info usage look).2 with
  | .error _ => 0
  | .ok _ => expiredBy db info.relay.userId (turnQuota info usage) look.now

def watch (s : Session) (event : RealtimeEvent) : Session :=
  let after := handle cfg info s.handler event
  if s.handler.stopped then s else match event with
    | .client _ _ | .target _ _ => { s with handler := after }
    | .responseDone usage text audio look =>
      let counted := s.handler.localUsage.plus (countedInput text audio)
      ⟨after,s.turns ++ [usage.getD counted],
        s.expired + expiredTurn cfg info s.handler.db (usage.elim counted s.handler.usage.plus) look⟩

-- What was counted and not charged by the time of the close is a turn of its own.
def lastTurn (h : Handler) : List RealtimeUsage :=
  if h.stopped = true ∨ h.localUsage.totalTokens = 0 then [] else [h.localUsage]

def flushExpired (h : Handler) (usage : RealtimeUsage) (look : Look) : Int :=
  if usage.totalTokens = 0 then 0 else expiredTurn cfg info h.db usage look

def watchClose (s : Session) (ending : Ending) : Session :=
  ⟨close cfg info s.handler ending.first ending.second,s.turns ++ lastTurn s.handler,
    s.expired + flushExpired cfg info s.handler s.handler.usage ending.first +
      flushExpired cfg info (flush cfg info s.handler s.handler.usage ending.first) s.handler.localUsage ending.second⟩

def ended (db : Database) (events : List RealtimeEvent) (ending : Ending) : Session :=
  watchClose cfg info (run (watch cfg info) ⟨.start db,[],0⟩ events) ending

variable (db : Database) (billing : Option BillingSession) (s : Session) (now : Int)

def settled : Database × Except Failure Unit := postWssConsumeQuota cfg s.handler.db info billing s.handler.sumUsage now

def settledExpired : Int :=
  let price := postWssQuota info s.handler.sumUsage
  match billing with
  | none => expiredBy s.handler.db info.relay.userId price now
  | some b => b.funding.split.expired + settleExpired (begun s.handler.db b) price now

def Within (n : Nat) (a b : Int) : Prop := a - b ≤ n ∧ b - a ≤ n

/- The sum has every turn once, and wallet and token have paid its price. Promotional credit
that a deduction finds expired is not a payment. -/
structure ChargedOnce : Prop where
  sum : s.handler.sumUsage = total s.turns
  paid : ∃ w, PaidExactly info.relay db (settled cfg info billing s now).1 w (s.expired + settledExpired info billing s now) ∧
    Within s.turns.length w (postWssQuota info (total s.turns))

end Property

/- A turn's charge finds the user and the token, and neither is overdrawn. -/
def Found : RealtimeEvent → Prop
  | .client _ _ | .target _ _ => True
  | .responseDone _ _ _ look => look.userQuota.any (0 ≤ ·) = true ∧
    look.token.any (fun token => token.unlimitedQuota || 0 ≤ token.remainQuota) = true

instance (event) : Decidable (Found event) := by cases event <;> (unfold Found; infer_instance)

/- Nothing was reserved and nothing is due, or the price is at least what was reserved and
the wallet has the rest. -/
def Settleable (db : Database) (id : Nat) (billing : Option BillingSession) (price now : Int) : Prop := match billing with
  | none => price = 0
  | some s => s.preConsumedQuota ≤ price ∧ (s.preConsumedQuota < price → WalletCovers db id (price - s.preConsumedQuota) now)

instance (db id billing price now) : Decidable (Settleable db id billing price now) := by unfold Settleable; split <;> infer_instance

def Framed (db db' : Database) : Prop := ∃ tokens pending, db' = { db with tokens := tokens, pendingTokenQuota := pending }

/- Only the token was written, and it is as it was. -/
structure Kept (info : RelayInfo) (db db' : Database) : Prop where
  frame : Framed db db'
  charged : Charged info db db' 0 0

theorem keptSelf (info db) : Kept info db db := ⟨⟨_,_,rfl⟩,chargedNone _ _⟩

theorem keptTrans {info a b c} (first : Kept info a b) (second : Kept info b c) : Kept info a c := by
  obtain ⟨⟨_,_,rfl⟩,charged⟩ := first
  obtain ⟨⟨_,_,rfl⟩,charged'⟩ := second
  exact ⟨⟨_,_,rfl⟩,chargedTrans charged charged'⟩

theorem framedCovers {db : Database} {tokens pending id amount now} :
    WalletCovers { db with tokens := tokens, pendingTokenQuota := pending } id amount now ↔ WalletCovers db id amount now := by
  unfold WalletCovers CreditLot.expireUserPromotionLotsWithTx
  by_cases nothing : CreditLot.dueLots db.lots id now = []
  · simp only [nothing,if_true]
  · simp only [nothing,if_false]
    rfl

theorem settleTokenAlways (cfg db info delta) : ∃ paid, settleToken cfg db info delta = .ok paid ∧ Framed db paid := by
  have moved : ∀ n, Framed db (moveToken cfg db info.tokenId n) := by
    intro n
    unfold moveToken
    split <;> exact ⟨_,_,rfl⟩
  unfold settleToken
  split
  · exact ⟨db,rfl,_,_,rfl⟩
  · split
    · exact ⟨_,by simp only [decreaseTokenQuota,bindOk,requireOk]; exact ⟨(),by omega,rfl⟩,moved _⟩
    · exact ⟨_,by simp only [increaseTokenQuota,bindOk,requireOk]; exact ⟨(),by omega,rfl⟩,moved _⟩

theorem consumeNothing (cfg db info now) : ∃ db', postConsumeQuota cfg db info 0 now = (db',.ok ()) ∧ Kept info db db' := by
  obtain ⟨paid,held,frame⟩ := settleTokenAlways cfg db info 0
  refine ⟨paid,?_,frame,chargedCast (settleTokenCharged held) rfl (by simp [tokenShare])⟩
  simp [postConsumeQuota,consumeWallet,increaseUserQuota,Grants.increaseUserCashQuota,require,held,bind,Except.bind,pure,Except.pure]

section Free
variable {cfg : Config} {info : RealtimeInfo} {db : Database} (free : info.turnRates.groupRatio * info.turnRates.modelRatio = 0)
include free

theorem freeTurn (usage) : turnQuota info usage = 0 := by
  have nothing : quotaFromDecimal 0 = 0 := by decide +kernel
  unfold turnQuota calculateAudioQuota
  split
  · simp only [quotaInfo,zero_mul]
    exact nothing
  · simp only [audioTokenQuota,quotaInfo,free,mul_zero,ne_eq,not_true_eq_false,false_and,if_false]
    exact nothing

theorem preWssKept (usage look) : Kept info.relay db (preWssConsumeQuota cfg db info usage look).1 := by
  obtain ⟨db',done,kept⟩ := consumeNothing cfg db info.relay look.now
  unfold preWssConsumeQuota
  split
  · exact keptSelf _ _
  split
  · exact keptSelf _ _
  · rw [freeTurn free,done]
    exact kept

theorem nothingExpired (db usage look) : expiredTurn cfg info db usage look = 0 := by
  unfold expiredTurn
  split
  · rfl
  · rw [freeTurn free]
    rfl

theorem preWssFound {usage look} {reported text audio} (found : Found (.responseDone reported text audio look)) :
    (preWssConsumeQuota cfg db info usage look).2 = .ok () := by
  obtain ⟨user,token⟩ := found
  obtain ⟨quota,seen,enough⟩ := (any_eq_true _ _).mp user
  obtain ⟨token,held,room⟩ := (any_eq_true _ _).mp token
  have checked : checkTurn info usage look = .ok () := by
    simp only [Bool.or_eq_true,decide_eq_true_eq] at enough room
    simp only [checkTurn,freeTurn free,bindOk,rowOk,requireOk]
    exact ⟨quota,seen,token,held,(),not_lt.mpr enough,room.imp_right not_lt.mpr⟩
  obtain ⟨db',done,_⟩ := consumeNothing cfg db info.relay look.now
  unfold preWssConsumeQuota
  split
  · rfl
  · rw [checked,freeTurn free,done]

structure Watched (info : RealtimeInfo) (db : Database) (s : Session) : Prop where
  kept : Kept info.relay db s.handler.db
  sum : s.handler.sumUsage = total s.turns
  expired : s.expired = 0
  clear : s.handler.usage = .empty
  running : s.handler.stopped = false

theorem watchStep (s event) (h : Watched info db s) (found : Found event) : Watched info db (watch cfg info s event) := by
  obtain ⟨kept,sum,expired,clear,running⟩ := h
  simp only [watch,handle,running,Bool.false_eq_true,if_false]
  cases event with
  | client | target => exact ⟨kept,sum,expired,clear,rfl⟩
  | responseDone usage text audio look =>
    have next : ∀ u, Kept info.relay db (preWssConsumeQuota cfg s.handler.db info u look).1 :=
      fun u => keptTrans kept (preWssKept free u look)
    have paid : ∀ u, (preWssConsumeQuota cfg s.handler.db info u look).2 = .ok () := fun u => preWssFound free found
    cases usage with
    | some u =>
      simp only [turnDone,preConsumeUsage,paid,clear,emptyPlus,nothingExpired free]
      exact ⟨next u,by rw [sum,getD_some,totalAppend],(add_zero _).trans expired,rfl,running⟩
    | none =>
      simp only [turnDone,preConsumeUsage,paid,nothingExpired free]
      exact ⟨next _,by rw [sum,getD_none,totalAppend],(add_zero _).trans expired,clear,running⟩

structure Closed (info : RealtimeInfo) (db : Database) (s : Session) : Prop where
  kept : Kept info.relay db s.handler.db
  sum : s.handler.sumUsage = total s.turns
  expired : s.expired = 0

theorem watchedClose (ending) {s} (h : Watched info db s) : Closed info db (watchClose cfg info s ending) := by
  obtain ⟨kept,sum,expired,clear,running⟩ := h
  have first : flush cfg info s.handler s.handler.usage ending.first = s.handler := by
    rw [clear]
    rfl
  have unspent : ∀ h u look, flushExpired cfg info h u look = 0 := by
    intro h u look
    unfold flushExpired
    split
    · rfl
    · exact nothingExpired free _ _ _
  simp only [watchClose,close,first,lastTurn,running,Bool.false_eq_true,false_or,unspent,expired]
  unfold flush
  split
  · exact ⟨kept,by rw [List.append_nil,sum],rfl⟩
  · exact ⟨keptTrans kept (preWssKept free _ _),by rw [totalAppend,← sum]; rfl,rfl⟩

omit free

theorem openedCases {info : RelayInfo} {reservation db₁ billing} (ok : LotsOk db.lots)
    (opened : preConsumeBilling cfg db info reservation = (db₁,.ok billing)) :
    (billing = none ∧ db₁ = db) ∨ ∃ s e, billing = some s ∧ 0 ≤ e ∧ Running db info e (begun db₁ s) := by
  cases reservation with
  | none =>
    cases opened
    exact .inl ⟨rfl,rfl⟩
  | some r =>
    simp only [preConsumeBilling] at opened
    split at opened
    · cases opened
    split at opened
    · cases opened
    rename_i low _ _ _ done
    cases opened
    refine .inr ⟨_,_,rfl,?_,runningStart ok done⟩
    unfold effectiveQuota
    split <;> omega

theorem settles {e c info actual now} (running : Running db info e c) (atLeast : c.session.preConsumedQuota ≤ actual)
    (covers : c.session.preConsumedQuota < actual → WalletCovers c.db info.userId (actual - c.session.preConsumedQuota) now) :
    ∃ db' s', settle cfg c.db c.session actual now = (db',s',.ok ()) := by
  simp only [settle,running.live.1,Bool.false_eq_true,if_false]
  by_cases same : actual - c.session.preConsumedQuota = 0
  · exact ⟨_,_,if_pos same⟩
  · obtain ⟨taken,took⟩ := coveredDeduct running.lots (by omega) (covers (by omega))
    obtain ⟨paid,held,_⟩ := settleTokenAlways cfg taken.2 c.session.info (actual - c.session.preConsumedQuota)
    have funded : ∃ f, settleFunding c.db c.session (actual - c.session.preConsumedQuota) now = .ok (f,taken.2) := by
      simp only [settleFunding,running.live.2.2,Bool.false_eq_true,if_false,Funding.settle,if_neg same,
        if_pos (show 0 < actual - c.session.preConsumedQuota by omega),running.who.2,took]
      exact ⟨_,rfl⟩
    obtain ⟨_,funded⟩ := funded
    exact ⟨_,_,by simp only [if_neg same,funded,held]; rfl⟩

include free

end Free

section Instances
variable (turnRatio : ℚ)

def voice : RealtimeInfo := ⟨caller,500000,false,⟨⟨1,1,1⟩,turnRatio,1⟩,false,⟨⟨1,1,1⟩,1,1⟩⟩

def heard (tokens : Int) : RealtimeUsage := ⟨tokens,tokens,0,0,⟨tokens,0⟩,⟨0,0⟩⟩

def look : Look := ⟨some 1000,some ⟨500,false⟩,20⟩

def closing : Ending := ⟨look,look,30⟩

def opening : Database × Except Failure (Option BillingSession) :=
  preConsumeBilling .shipped funded caller (some ⟨50,some 500,10⟩)

def openingBilling : Option BillingSession := opening.2.toOption.getD none

def talk : List RealtimeEvent := [.client 7 0,.responseDone (some (heard 30)) 0 0 look,.responseDone none 33 0 look,.client 30 0]

def dearTurn (userQuota : Int) : List RealtimeEvent := [.responseDone (some (heard 100)) 0 0 { look with userQuota := some userQuota }]

end Instances

end NovaPuraRouter.RealtimeCharge
