import NovaPuraRouter.Funding
import NovaPuraRouter.Grants

/-! One billed request on wallet funds: reserve, raise the reservation, settle or give back.
What a look-up of the token finds may come from the cache and is an argument. The
asynchronous part of a refund is taken to have run. -/
namespace NovaPuraRouter.Billing
open CreditLot Funding Grants

structure RelayInfo where
  userId : Nat
  tokenId : Nat
  tokenUnlimited : Bool
  isPlayground : Bool
  forcePreConsume : Bool
  userQuota : Int
  tokenQuota : Int

structure BillingSession where
  info : RelayInfo
  funding : WalletFunding
  preConsumedQuota : Int
  tokenConsumed : Int
  extraReserved : Int
  trusted : Bool
  fundingSettled : Bool
  settled : Bool
  refunded : Bool

variable (cfg : Config) (db : Database)

def moveToken (tokenId : Nat) (quota : Int) : Database :=
  if cfg.batchUpdateEnabled then { db with pendingTokenQuota := addNewRecord db.pendingTokenQuota tokenId quota }
  else { db with tokens := moveTokenQuota db.tokens tokenId quota }

def increaseTokenQuota (tokenId : Nat) (quota : Int) : Except Failure Database := do
  require (0 ≤ quota) .negativeQuota
  pure (moveToken cfg db tokenId quota)

def decreaseTokenQuota (tokenId : Nat) (quota : Int) : Except Failure Database := do
  require (0 ≤ quota) .negativeQuota
  pure (moveToken cfg db tokenId (-quota))

variable (info : RelayInfo) (quota : Int) (seen : Option Int)

def preConsumeTokenQuota :
    Except Failure Database := do
  require (0 ≤ quota) .negativeQuota
  if info.isPlayground then pure db else do
    let remain ← row seen .recordNotFound
    require (info.tokenUnlimited = true ∨ ¬ remain < quota) .tokenQuotaNotEnough
    decreaseTokenQuota cfg db info.tokenId quota

def getTrustQuota : Int := Int.tdiv (10 * cfg.quotaPerUnit.num) cfg.quotaPerUnit.den

def shouldTrust : Bool :=
  decide (info.forcePreConsume = false ∧ 0 < getTrustQuota cfg ∧
    (info.tokenUnlimited = true ∨ getTrustQuota cfg < info.tokenQuota) ∧ getTrustQuota cfg < info.userQuota)

def effectiveQuota : Int := if shouldTrust cfg info then 0 else quota

-- The token pays only a positive amount; the session counts it also in the playground.
def tokenPart : Int := if 0 < quota then quota else 0

def holdToken : Except Failure Database :=
  if 0 < quota then preConsumeTokenQuota cfg db info quota seen else pure db

def giveBackToken (consumed : Int) : Database :=
  if 0 < consumed ∧ info.isPlayground = false then commit db (increaseTokenQuota cfg db info.tokenId consumed) else db

def preConsume (now : Int) :
    Database × Except Failure BillingSession :=
  let effective := effectiveQuota cfg info quota
  match holdToken cfg db info effective seen with
  | .error e => (db,.error e)
  | .ok held => match Funding.preConsume held (.fresh info.userId) effective now with
    | .error e => (giveBackToken cfg held info (tokenPart effective),.error e)
    | .ok (funding,taken) =>
      (taken,.ok ⟨info,funding,effective,tokenPart effective,0,shouldTrust cfg info,false,false,false⟩)

-- The split of a supplementary deduction is dropped.
def reserveFunding (funding : WalletFunding) (delta now : Int) : Except Failure (WalletFunding × Database) := do
  let taken ← decreaseUserQuotaWithSplit db funding.userId delta now
  pure ({ funding with consumed := funding.consumed + delta },taken.2)

def rollbackFundingReserve (funding : WalletFunding) (delta : Int) : WalletFunding × Database :=
  match increaseUserCashQuota cfg db funding.userId delta false with
  | .error _ => (funding,db)
  | .ok db' => ({ funding with consumed := funding.consumed - delta },db')

def reserveToken (delta : Int) (seen : Option Int) : Except Failure Database :=
  if delta ≤ 0 ∨ info.isPlayground = true then pure db else preConsumeTokenQuota cfg db info delta seen

variable (s : BillingSession)

def BillingSession.raises (target : Int) : Prop :=
  s.settled = false ∧ s.refunded = false ∧ s.trusted = false ∧ s.preConsumedQuota < target

instance (s target) : Decidable (BillingSession.raises s target) := by unfold BillingSession.raises; infer_instance

def reserve (target : Int) (seen : Option Int) (now : Int) :
    Database × BillingSession × Except Failure Unit :=
  if ¬ s.raises target then (db,s,.ok ()) else
    let delta := target - s.preConsumedQuota
    match reserveFunding db s.funding delta now with
    | .error e => (db,s,.error e)
    | .ok (funding,taken) => match reserveToken cfg taken s.info delta seen with
      | .error e =>
        let back := rollbackFundingReserve cfg taken funding delta
        (back.2,{ s with funding := back.1 },.error e)
      | .ok held => (held,{ s with
          funding := funding, preConsumedQuota := s.preConsumedQuota + delta
          tokenConsumed := s.tokenConsumed + delta, extraReserved := s.extraReserved + delta },.ok ())

def settleFunding (delta now : Int) : Except Failure (WalletFunding × Database) :=
  if s.fundingSettled then pure (s.funding,db) else Funding.settle db s.funding delta now

def settleToken (delta : Int) : Except Failure Database :=
  if info.isPlayground then pure db else
  if 0 < delta then decreaseTokenQuota cfg db info.tokenId delta else increaseTokenQuota cfg db info.tokenId (-delta)

def settle (actual now : Int) :
    Database × BillingSession × Except Failure Unit :=
  if s.settled then (db,s,.ok ()) else
    let delta := actual - s.preConsumedQuota
    if delta = 0 then (db,{ s with settled := true },.ok ()) else
      match settleFunding db s delta now with
      | .error e => (db,s,.error e)
      | .ok (funding,taken) =>
        let done := { s with funding := funding, fundingSettled := true, settled := true }
        match settleToken cfg taken s.info delta with
        | .error e => (taken,done,.error e)
        | .ok paid => (paid,done,.ok ())

def needsRefundLocked : Prop :=
  s.settled = false ∧ s.refunded = false ∧ s.fundingSettled = false ∧ 0 < s.tokenConsumed

instance (s) : Decidable (needsRefundLocked s) := by unfold needsRefundLocked; infer_instance

-- A restore that fails is logged; the token is given back all the same.
def refund (now : Int) : Database × BillingSession :=
  if ¬ needsRefundLocked s then (db,s) else
    let back := match Funding.refund db s.funding now with
      | .error _ => (s.funding,db)
      | .ok r => r
    (giveBackToken cfg back.2 s.info s.tokenConsumed,{ s with funding := back.1, refunded := true })

end NovaPuraRouter.Billing
