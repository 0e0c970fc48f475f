import NovaPuraRouter.Table
import NovaPuraRouter.Execution

/-! A profile update writes the copy of the user row that the request read at its start:
each column that is not zero in the copy, but for three it omits; the accounting columns it
does not omit go back to what they were at the read. -/
namespace NovaPuraRouter.ProfileUpdate
open Option

structure Accounting where
  quota : Int
  promoQuota : Int
  usedQuota : Int
  requestCount : Int
  affQuota : Int
  pendingCommissionCents : Int
  commissionBalanceCents : Int
  commissionTotalCents : Int
  deriving DecidableEq, Repr

structure UserRow where
  username : String
  password : String
  displayName : String
  role : Int
  status : Int
  email : String
  gitHubId : String
  discordId : String
  oidcId : String
  weChatId : String
  telegramId : String
  accessToken : Option String
  group : String
  affCode : String
  affCount : Int
  rewardedInviteCount : Int
  affHistoryQuota : Int
  inviterId : Int
  inviteRewardPending : Bool
  commissionApproved : Bool
  linuxDOId : String
  setting : String
  remark : String
  stripeCustomer : String
  createdAt : Int
  lastLoginAt : Int
  money : Accounting
  deriving DecidableEq, Repr

abbrev Users := Table Nat UserRow

inductive UpdateFailure | hash (text : String) | recordNotFound
  deriving DecidableEq, Repr

def written {α : Type} [DecidableEq α] (zero new current : α) : α := if new = zero then current else new

theorem writtenKeeps {α : Type} [DecidableEq α] {zero new current : α} :
    written zero new current = current ↔ new = zero ∨ new = current := by
  unfold written
  split
  · rename_i nothing
    exact ⟨fun _ => .inl nothing,fun _ => rfl⟩
  · rename_i something
    exact ⟨.inr,fun kept => kept.resolve_left something⟩

-- Omitted: quota, used_quota and request_count.
def updatesMoney (new current : Accounting) : Accounting where
  quota := current.quota
  promoQuota := written 0 new.promoQuota current.promoQuota
  usedQuota := current.usedQuota
  requestCount := current.requestCount
  affQuota := written 0 new.affQuota current.affQuota
  pendingCommissionCents := written 0 new.pendingCommissionCents current.pendingCommissionCents
  commissionBalanceCents := written 0 new.commissionBalanceCents current.commissionBalanceCents
  commissionTotalCents := written 0 new.commissionTotalCents current.commissionTotalCents

def updates (new current : UserRow) : UserRow where
  username := written "" new.username current.username
  password := written "" new.password current.password
  displayName := written "" new.displayName current.displayName
  role := written 0 new.role current.role
  status := written 0 new.status current.status
  email := written "" new.email current.email
  gitHubId := written "" new.gitHubId current.gitHubId
  discordId := written "" new.discordId current.discordId
  oidcId := written "" new.oidcId current.oidcId
  weChatId := written "" new.weChatId current.weChatId
  telegramId := written "" new.telegramId current.telegramId
  accessToken := written none new.accessToken current.accessToken
  group := written "" new.group current.group
  affCode := written "" new.affCode current.affCode
  affCount := written 0 new.affCount current.affCount
  rewardedInviteCount := written 0 new.rewardedInviteCount current.rewardedInviteCount
  affHistoryQuota := written 0 new.affHistoryQuota current.affHistoryQuota
  inviterId := written 0 new.inviterId current.inviterId
  inviteRewardPending := written false new.inviteRewardPending current.inviteRewardPending
  commissionApproved := written false new.commissionApproved current.commissionApproved
  linuxDOId := written "" new.linuxDOId current.linuxDOId
  setting := written "" new.setting current.setting
  remark := written "" new.remark current.remark
  stripeCustomer := written "" new.stripeCustomer current.stripeCustomer
  createdAt := written 0 new.createdAt current.createdAt
  lastLoginAt := written 0 new.lastLoginAt current.lastLoginAt
  money := updatesMoney new.money current.money

section Update
variable (password2Hash : String → Except String String)

def hashed (user : UserRow) (updatePassword : Bool) : Except UpdateFailure UserRow :=
  if updatePassword then match password2Hash user.password with
    | .ok hash => .ok { user with password := hash }
    | .error text => .error (.hash text)
  else .ok user

def updateWithTx (users : Users) (id : Nat) (user : UserRow) (updatePassword : Bool) : Except UpdateFailure (UserRow × Users) := do
  let newUser ← hashed password2Hash user updatePassword
  let current ← row (users.get? id) .recordNotFound
  pure (updates newUser current,users.modify id (updates newUser))

variable {password2Hash}

theorem hashedMoney {user newUser updatePassword} (ok : hashed password2Hash user updatePassword = .ok newUser) :
    newUser.money = user.money := by
  unfold hashed at ok
  split at ok
  · split at ok
    · cases ok
      rfl
    · cases ok
  · cases ok
    rfl

theorem updateMoney {users users' id user back updatePassword}
    (ok : updateWithTx password2Hash users id user updatePassword = .ok (back,users')) :
    ∃ current, users.get? id = some current ∧ ∀ k, (users'.get? k).map UserRow.money =
        if k = id then some (updatesMoney user.money current.money) else (users.get? k).map UserRow.money := by
  simp only [updateWithTx,bindOk,rowOk,pureOk,Prod.mk.injEq] at ok
  obtain ⟨_,hash,current,found,_,rfl⟩ := ok
  refine ⟨current,found,?_⟩
  intro k
  rw [Table.getModify]
  split
  · rename_i same
    simp only [found,map_some,updates,hashedMoney hash]
  · rfl

end Update

/- Current values that the copy does not hold back: nothing read, or nothing changed since. -/
structure Fresh (copy current : Accounting) : Prop where
  promo : copy.promoQuota = 0 ∨ copy.promoQuota = current.promoQuota
  aff : copy.affQuota = 0 ∨ copy.affQuota = current.affQuota
  pending : copy.pendingCommissionCents = 0 ∨ copy.pendingCommissionCents = current.pendingCommissionCents
  balance : copy.commissionBalanceCents = 0 ∨ copy.commissionBalanceCents = current.commissionBalanceCents
  total : copy.commissionTotalCents = 0 ∨ copy.commissionTotalCents = current.commissionTotalCents

theorem moneyKept (copy current) : updatesMoney copy current = current ↔ Fresh copy current := by
  constructor
  · intro same
    have columns := Accounting.mk.inj same
    exact ⟨writtenKeeps.mp columns.2.1,writtenKeeps.mp columns.2.2.2.2.1,writtenKeeps.mp columns.2.2.2.2.2.1,
      writtenKeeps.mp columns.2.2.2.2.2.2.1,writtenKeeps.mp columns.2.2.2.2.2.2.2⟩
  · intro fresh
    simp only [updatesMoney,writtenKeeps.mpr fresh.promo,writtenKeeps.mpr fresh.aff,writtenKeeps.mpr fresh.pending,
      writtenKeeps.mpr fresh.balance,writtenKeeps.mpr fresh.total]

inductive AccountingOp
  | spend (promo cash : Int)
  | creditPromo (quota : Int)
  | creditCash (quota : Int)
  | creditAff (quota : Int)
  | transferAff (quota : Int)
  | settleCommission (cents : Int)
  | releaseCommission (cents : Int)
  | withdraw (cents : Int)
  | refundWithdrawal (cents : Int)

def AccountingOp.edit (m : Accounting) : AccountingOp → Accounting
  | .spend promo cash => { m with
      quota := m.quota - (promo + cash), promoQuota := m.promoQuota - promo
      usedQuota := m.usedQuota + (promo + cash), requestCount := m.requestCount + 1 }
  | .creditPromo quota => { m with quota := m.quota + quota, promoQuota := m.promoQuota + quota }
  | .creditCash quota => { m with quota := m.quota + quota }
  | .creditAff quota => { m with affQuota := m.affQuota + quota }
  | .transferAff quota => { m with affQuota := m.affQuota - quota, quota := m.quota + quota }
  | .settleCommission cents => { m with
      pendingCommissionCents := m.pendingCommissionCents + cents, commissionTotalCents := m.commissionTotalCents + cents }
  | .releaseCommission cents => { m with
      pendingCommissionCents := m.pendingCommissionCents - cents, commissionBalanceCents := m.commissionBalanceCents + cents }
  | .withdraw cents => { m with commissionBalanceCents := m.commissionBalanceCents - cents }
  | .refundWithdrawal cents => { m with commissionBalanceCents := m.commissionBalanceCents + cents }

def accountStep (users : Users) (op : Nat × AccountingOp) : Users :=
  users.modify op.1 (fun u => { u with money := op.2.edit u.money })

def MoneyUnchanged (users users' : Users) : Prop := ∀ k, (users'.get? k).map UserRow.money = (users.get? k).map UserRow.money

def moneyAfter (id : Nat) (ops : List (Nat × AccountingOp)) (m : Accounting) : Accounting :=
  ops.foldl (fun m op => if op.1 = id then op.2.edit m else m) m

theorem runMoney {users id u} (ops) (found : users.get? id = some u) :
    (run accountStep users ops).get? id = some { u with money := moneyAfter id ops u.money } := by
  induction ops generalizing users u with
  | nil => exact found
  | cons op _ ih =>
    have step : (accountStep users op).get? id = some { u with money := if op.1 = id then op.2.edit u.money else u.money } := by
      by_cases own : op.1 = id
      · rw [accountStep,own,Table.getModifySelf,found,map_some,if_pos rfl]
      · rw [accountStep,Table.getModifyOther _ (Ne.symm own),found,if_neg own]
    exact ih step

/-- A profile update with a copy read before any number of accounting transactions leaves
their result alone exactly when each of the five columns it writes was zero at the read or
is what it was then. -/
theorem profileUpdateFrame {password2Hash : String → Except String String} {users users' : Users} {id : Nat}
    {original copy back : UserRow} {updatePassword : Bool} (ops : List (Nat × AccountingOp))
    (readThen : users.get? id = some original) (profileOnly : copy.money = original.money)
    (ok : updateWithTx password2Hash (run accountStep users ops) id copy updatePassword = .ok (back,users')) :
    MoneyUnchanged (run accountStep users ops) users' ↔ Fresh original.money (moneyAfter id ops original.money) := by
  have now := runMoney ops readThen
  obtain ⟨_,found,after⟩ := updateMoney ok
  cases some.inj (found.symm.trans now)
  rw [profileOnly] at after
  constructor
  · intro unchanged
    have own := (after id).symm.trans (unchanged id)
    rw [if_pos rfl,now,map_some] at own
    exact (moneyKept _ _).mp (some.inj own)
  · intro fresh k
    rw [after]
    split
    · rename_i same
      rw [same,now,map_some,(moneyKept _ _).mpr fresh]
    · rfl

def member (money : Accounting) : UserRow :=
  ⟨"ann","secret","Ann",1,1,"","","","","","",none,"default","",0,0,0,0,false,true,"","","","",0,0,money⟩

def openingMoney : Accounting := ⟨1000,0,20,3,0,0,5000,5000⟩

def members : Users := ⟨[(1,member openingMoney)],by decide⟩

def renamed : UserRow := { member openingMoney with displayName := "Anna" }

theorem spendingKept : ∃ back users',
    updateWithTx Except.ok (run accountStep members [(1,.spend 0 400)]) 1 renamed false = .ok (back,users') ∧
    MoneyUnchanged (run accountStep members [(1,.spend 0 400)]) users' :=
  ⟨_,_,rfl,(@profileUpdateFrame Except.ok members _ 1 (member openingMoney) renamed _ false [(1,.spend 0 400)] rfl rfl rfl).mpr
    ⟨.inl rfl,.inl rfl,.inl rfl,.inr rfl,.inr rfl⟩⟩

theorem withdrawalUndone : ∃ back users', updateWithTx Except.ok (run accountStep members [(1,.withdraw 2000)]) 1 renamed false =
      .ok (back,users') ∧
    ((run accountStep members [(1,.withdraw 2000)]).get? 1).map (fun u => u.money.commissionBalanceCents) = some 3000 ∧
    (users'.get? 1).map (fun u => u.money.commissionBalanceCents) = some 5000 :=
  ⟨_,_,rfl,by decide,by decide⟩

end NovaPuraRouter.ProfileUpdate
