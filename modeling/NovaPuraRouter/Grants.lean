import NovaPuraRouter.CreditLot

/-! The credits that open no lot: registration, cash and promotional increases with the
batch updater, redemption codes and campaign grants, whose promotional amounts are settings
already converted to quota. -/
namespace NovaPuraRouter.Grants

def trimSpace (chars : List Char) : List Char :=
  ((chars.dropWhile Char.isWhitespace).reverse.dropWhile Char.isWhitespace).reverse

def normalizeEmail (email : String) : String := String.ofList ((trimSpace email.toList).map Char.toLower)

variable (cfg : Config)

def freshUser (email : String) : User where
  email := email
  quota := cfg.quotaForNewUser
  promoQuota := cfg.quotaForNewUser
  usedQuota := 0
  requestCount := 0
  affCount := 0
  rewardedInviteCount := 0
  inviterId := 0
  inviteRewardPending := false
  commissionApproved := false
  stripeCustomer := ""

variable (db : Database)

def insertUser (email : String) : Except Failure Database := do
  let normal := normalizeEmail email
  require (normal = "" ∨ db.users.select (fun _ u => decide (u.email = normal)) = []) .emailAlreadyTaken
  pure { db with users := db.users.append (freshUser cfg normal) }

-- What finishing a registration writes when invite rewards are delayed.
def bindInviter (userId inviterId : Nat) : Database :=
  if inviterId = 0 ∨ inviterId = userId then db else
    { db with users := db.users.modify userId (fun u => { u with inviterId := inviterId, inviteRewardPending := true }) }

def addNewRecord {α : Type} [Add α] (store : Table Nat α) (id : Nat) (value : α) : Table Nat α :=
  if fresh : id ∉ store.keys then store.insert id value fresh else store.modify id (· + value)

def increaseUserCashQuota (id : Nat) (quota : Int) (direct : Bool) : Except Failure Database := do
  require (0 ≤ quota) .negativeQuota
  if quota = 0 then pure db else
  if !direct && cfg.batchUpdateEnabled then pure { db with pendingUserQuota := addNewRecord db.pendingUserQuota id quota.toNat }
  else pure (db.credit id quota 0)

def increaseUserPromoQuota (id : Nat) (quota : Int) : Except Failure Database := do
  require (0 ≤ quota) .negativeQuota
  if quota = 0 then pure db else pure (db.credit id quota quota)

def moveTokenQuota (tokens : Table Nat Token) (id : Nat) (quota : Int) : Table Nat Token :=
  tokens.modify id (fun t => { t with remainQuota := t.remainQuota + quota, usedQuota := t.usedQuota - quota })

def batchUpdate : Database :=
  let users := db.pendingUserQuota.rows.foldl (fun d r => d.credit r.1 r.2 0) db
  { users with
    tokens := db.pendingTokenQuota.rows.foldl (fun t r => moveTokenQuota t r.1 r.2) db.tokens
    pendingUserQuota := .empty
    pendingTokenQuota := .empty }

def recordUsage (id : Nat) (quota count : Int) : Database :=
  let add (u : User) : User := { u with usedQuota := u.usedQuota + quota, requestCount := u.requestCount + count }
  { db with users := db.users.modify id add }

def insertToken (token : Token) : Database := { db with tokens := db.tokens.append token }

def insertRedemption (key : String) (quota : Nat) (maxRedeems expiredTime : Int) : Except Failure Database := do
  let redemptions ← row (db.redemptions.insert? key ⟨.enabled,quota,maxRedeems,0,0,0,expiredTime⟩) .duplicateKey
  pure { db with redemptions := redemptions }

def effectiveMaxRedeems (r : Redemption) : Int := if r.maxRedeems ≤ 0 then 1 else r.maxRedeems

def redeemed (userId : Nat) (now : Int) (r : Redemption) : Redemption := { r with
  redeemedTime := now
  usedUserId := userId
  redeemedCount := r.redeemedCount + 1
  status := if effectiveMaxRedeems r ≤ r.redeemedCount + 1 then .used else r.status }

-- Every error inside the transaction is reported as one.
def redeem (key : String) (userId : Nat) (now : Int) : Except Failure (Int × Database) := do
  require (key ≠ "") .redemptionKeyMissing
  require (userId ≠ 0) .invalidUserId
  let redemption ← row (db.redemptions.get? key) .redeemFailed
  require (redemption.status = .enabled) .redeemFailed
  require (¬ (redemption.expiredTime ≠ 0 ∧ redemption.expiredTime < now)) .redeemFailed
  let usages ← row (db.usages.insert? (key,userId) redemption.quota) .redeemFailed
  let spent : Database := { db with usages := usages, redemptions := db.redemptions.modify key (redeemed userId now) }
  pure (redemption.quota,spent.credit userId redemption.quota redemption.quota)

def countRegisterPromo : Except Failure Database :=
  if cfg.registerPromoMax ≤ 0 then pure db else do
    require (db.registerPromoCount < cfg.registerPromoMax) .registerPromoFull
    pure { db with registerPromoCount := db.registerPromoCount + 1 }

def tryGrantRegisterPromo (userId : Nat) : Except Failure Database :=
  if ¬ (cfg.registerPromoEnabled ∧ cfg.emailVerificationEnabled ∧ userId ≠ 0) ∨ cfg.registerPromoQuota ≤ 0 then pure db else do
    let user ← row (db.users.get? userId) .recordNotFound
    if user.email = "" then pure db else
      match db.claims.insert? (userId,.registerPromo) cfg.registerPromoQuota with
      | none => pure db
      | some claims => do
        let counted ← countRegisterPromo cfg { db with claims := claims }
        pure (counted.credit userId cfg.registerPromoQuota cfg.registerPromoQuota)

variable (inviteeId : Nat)

def qualified (invitee : User) : Prop :=
  invitee.inviteRewardPending = true ∧ invitee.inviterId ≠ 0 ∧ invitee.email ≠ "" ∧
  db.tokens.select (fun _ t => decide (t.userId = inviteeId)) ≠ [] ∧
  (0 < invitee.usedQuota ∨ 0 < invitee.requestCount)

instance (db inviteeId invitee) : Decidable (qualified db inviteeId invitee) := by unfold qualified; infer_instance

def settleInvite : Database :=
  { db with users := db.users.modify inviteeId fun u => { u with inviteRewardPending := false } }

-- The inviter is counted in any case and paid only under the cap, once per invitee.
def payInviter (inviterId inviteeId : Nat) (inviter : User) : Database :=
  let counted : Database := { db with users := db.users.modify inviterId fun u => { u with affCount := inviter.affCount + 1 } }
  if inviter.commissionApproved = false ∧ inviter.rewardedInviteCount < cfg.maxValidInvites then
    match counted.claims.insert? (inviterId,.inviteInviter inviteeId) cfg.inviteRewardQuota with
    | none => counted
    | some claims =>
      let rewarded : Database := { counted with
        claims := claims
        users := counted.users.modify inviterId fun u => { u with rewardedInviteCount := inviter.rewardedInviteCount + 1 } }
      rewarded.credit inviterId cfg.inviteRewardQuota cfg.inviteRewardQuota
  else counted

def trySettleDelayedInviteReward : Except Failure Database :=
  if cfg.delayedInviteReward = false ∨ cfg.inviteRewardQuota ≤ 0 then pure db else do
    let invitee ← row (db.users.get? inviteeId) .recordNotFound
    if ¬ qualified db inviteeId invitee then pure db else do
      let inviter ← row (db.users.get? invitee.inviterId) .recordNotFound
      if invitee.inviterId = inviteeId then pure (settleInvite db inviteeId) else
        match db.claims.insert? (inviteeId,.inviteInvitee) cfg.inviteRewardQuota with
        | none => pure (settleInvite db inviteeId)
        | some claims =>
          let paid := (settleInvite { db with claims := claims } inviteeId).credit inviteeId cfg.inviteRewardQuota cfg.inviteRewardQuota
          pure (payInviter cfg paid invitee.inviterId inviteeId inviter)

def tryGrantShareReward (userId : Nat) (amount : Int) : Database :=
  if userId = 0 ∨ amount ≤ 0 then db else
    match db.claims.insert? (userId,.share) amount with
    | none => db
    | some claims => ({ db with claims := claims } : Database).credit userId amount amount

end NovaPuraRouter.Grants
