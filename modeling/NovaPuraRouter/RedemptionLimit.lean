import NovaPuraRouter.Grants
import NovaPuraRouter.TopupOrder

/-! Redemption codes and their limit. A redemption looks at the status of the locked code
and not at its counter. An administrator's update reads the code without a lock and writes
back most columns, the status and the limit among them, as they were at the read. -/
namespace NovaPuraRouter.RedemptionLimit
open Grants List Option Table

inductive BillingCurrency | usd | cny | cad
  deriving DecidableEq, Repr

structure Pricing where
  quotaPerUnit : Ratio
  usdCNYRate : Ratio
  cadExchangeRate : Ratio

def oneToOne : Ratio := ⟨1,1,Nat.one_pos⟩

def fxPerUSD (p : Pricing) (currency : BillingCurrency) : Ratio :=
  let fx := match currency with
    | .cny => p.usdCNYRate
    | .cad => p.cadExchangeRate
    | .usd => oneToOne
  if fx.num ≤ 0 then oneToOne else fx

def computeQuotaFromCurrencyAmount (p : Pricing) (currency : BillingCurrency) (amount : Ratio) : Nat :=
  let fx := fxPerUSD p currency
  if amount.num ≤ 0 then 0 else (TopupOrder.quotaFromRatio (amount.num * fx.den * p.quotaPerUnit.num)
    (amount.den * fx.num.toNat * p.quotaPerUnit.den)).toNat

-- No currency is taken for dollars.
def normalizeRedemptionCurrency (currency : String) : Option BillingCurrency :=
  let code := String.ofList ((trimSpace currency.toList).map Char.toLower)
  if code = "" ∨ code = "usd" then some .usd
  else if code = "cny" then some .cny
  else if code = "cad" then some .cad
  else none

structure RedemptionInput where
  status : RedemptionCodeStatus
  currency : String
  amount : Ratio
  quota : Int
  maxRedeems : Int
  expiredTime : Int

inductive UpdateFailure | recordNotFound | expireTimeInvalid | currencyInvalid | maxRedeemsInvalid | maxRedeemsBelowUsed
  deriving DecidableEq, Repr

def editedQuota (p : Pricing) (currency : BillingCurrency) (input : RedemptionInput) (copy : Redemption) : Nat :=
  if 0 < input.amount.num then computeQuotaFromCurrencyAmount p currency input.amount
  else if 0 < input.quota then input.quota.toNat
  else copy.quota

def edited (p : Pricing) (input : RedemptionInput) (copy : Redemption) (now : Int) : Except UpdateFailure Redemption := do
  require (¬ (input.expiredTime ≠ 0 ∧ input.expiredTime < now)) .expireTimeInvalid
  let currency ← row (normalizeRedemptionCurrency input.currency) .currencyInvalid
  require (0 < input.maxRedeems → input.maxRedeems ≤ 100000) .maxRedeemsInvalid
  require (0 < input.maxRedeems → copy.redeemedCount ≤ input.maxRedeems) .maxRedeemsBelowUsed
  pure { copy with
    quota := editedQuota p currency input copy
    maxRedeems := if 0 < input.maxRedeems then input.maxRedeems else copy.maxRedeems
    expiredTime := input.expiredTime }

def updateRedemption (p : Pricing) (db : Database) (key : String) (input : RedemptionInput) (statusOnly : Bool) (now : Int) :
    Except UpdateFailure Redemption := do
  let cleanRedemption ← row (db.redemptions.get? key) .recordNotFound
  if statusOnly then pure { cleanRedemption with status := input.status }
  else edited p input cleanRedemption now

-- The counter and the last user are not among the columns.
def update (copy current : Redemption) : Redemption :=
  { copy with redeemedCount := current.redeemedCount, usedUserId := current.usedUserId }

/- A redemption reported as done, with the code's limit and quota at that time and the two
balances of the user before and after it. -/
structure Success where
  key : String
  userId : Nat
  limit : Int
  quota : Nat
  before : Option (Int × Int)
  after : Option (Int × Int)
  deriving DecidableEq, Repr

structure CodeSystem where
  db : Database
  clock : Int
  updates : List (String × Redemption)
  successes : List Success

inductive CodeOp
  | elapse (seconds : Nat)
  | redeem (key : String) (userId : Nat)
  | beginUpdate (key : String) (input : RedemptionInput) (statusOnly : Bool)
  | finishUpdate (index : Nat)

def balances (db : Database) (userId : Nat) : Option (Int × Int) := (db.users.get? userId).map (fun u => (u.quota,u.promoQuota))

def success (db db' : Database) (key : String) (userId : Nat) (code : Redemption) : Success :=
  ⟨key,userId,effectiveMaxRedeems code,code.quota,balances db userId,balances db' userId⟩

def codeStep (p : Pricing) (sys : CodeSystem) : CodeOp → CodeSystem
  | .elapse seconds => { sys with clock := sys.clock + seconds }
  | .redeem key userId => match redeem sys.db key userId sys.clock, sys.db.redemptions.get? key with
    | .ok (_,db'), some code => { sys with db := db', successes := success sys.db db' key userId code :: sys.successes }
    | _, _ => sys
  | .beginUpdate key input statusOnly => match updateRedemption p sys.db key input statusOnly sys.clock with
    | .ok copy => { sys with updates := sys.updates ++ [(key,copy)] }
    | .error _ => sys
  | .finishUpdate index => match sys.updates[index]? with
    | none => sys
    | some (key,copy) => { sys with
        db := { sys.db with redemptions := sys.db.redemptions.modify key (update copy) }
        updates := sys.updates.eraseIdx index }

def usageRows (db : Database) (key : String) : Nat := (db.usages.select (fun k _ => decide (k.1 = key))).length

def succeeded (successes : List Success) (key : String) : Nat := successes.countP (fun s => decide (s.key = key))

theorem succeededCons (s earlier key) : succeeded (s :: earlier) key = succeeded earlier key + if s.key = key then 1 else 0 := by
  simp only [succeeded,countP_cons,decide_eq_true_eq]

section Limit
variable (start : Database)

def WithinLimits : List Success → Prop
  | [] => True
  | s :: earlier => (usageRows start s.key + succeeded (s :: earlier) s.key : Int) ≤ s.limit ∧ WithinLimits earlier

def Success.Credited (s : Success) : Prop := ∃ quota promo, s.before = some (quota,promo) ∧ s.after = some (quota + s.quota,promo + s.quota)

structure Limited (sys : CodeSystem) : Prop where
  limits : WithinLimits start sys.successes
  once : (sys.successes.map (fun s => (s.key,s.userId))).Nodup
  first : ∀ s ∈ sys.successes, (s.key,s.userId) ∉ start.usages.keys
  counted : ∀ key code, sys.db.redemptions.get? key = some code → code.redeemedCount = usageRows sys.db key
  credited : ∀ s ∈ sys.successes, s.Credited

end Limit

def Roomy (db : Database) : Prop := ∀ key code, db.redemptions.get? key = some code →
  code.status = .enabled → code.redeemedCount < effectiveMaxRedeems code

/- The user is there, and an update that leaves the code enabled writes a limit above the count. -/
def LeavesRoom (sys : CodeSystem) : CodeOp → Prop
  | .redeem _ userId => (sys.db.users.get? userId).isSome = true
  | .finishUpdate index => ∀ w ∈ sys.updates[index]?, ∀ current ∈ sys.db.redemptions.get? w.1,
      w.2.status = .enabled → current.redeemedCount < effectiveMaxRedeems w.2
  | _ => True

structure Redeemed (db db' : Database) (key : String) (userId : Nat) (now : Int) (code : Redemption) : Prop where
  found : db.redemptions.get? key = some code
  enabled : code.status = .enabled
  inserted : ∃ fresh, db'.usages = db.usages.insert (key,userId) code.quota fresh
  codes : db'.redemptions = db.redemptions.modify key (redeemed userId now)
  users : db'.users = (db.credit userId code.quota code.quota).users

variable {db db' start : Database} {key : String} {userId : Nat} {now : Int} {code : Redemption}

theorem redeemSpec {quota} (ok : redeem db key userId now = .ok (quota,db')) : ∃ code, Redeemed db db' key userId now code := by
  simp only [redeem,bindOk,requireOk,rowOk,pureOk,Prod.mk.injEq] at ok
  obtain ⟨_,_,_,_,code,found,_,enabled,_,_,_,attempt,_,rfl⟩ := ok
  obtain ⟨fresh,rfl⟩ := insertExact attempt
  exact ⟨code,found,enabled,⟨fresh,rfl⟩,rfl,rfl⟩

theorem usageSum (db key) : (usageRows db key : Int) = db.usages.sum (fun k _ => if k.1 = key then 1 else 0) := by
  have count := sumSelect db.usages (fun k _ => decide (k.1 = key)) (fun _ _ => 1)
  simpa [usageRows] using count

section
variable (done : Redeemed db db' key userId now code)
include done

theorem redeemedRows (k) : usageRows db' k = usageRows db k + if key = k then 1 else 0 := by
  obtain ⟨_,inserted⟩ := done.inserted
  have grown : (usageRows db' k : Int) = usageRows db k + if key = k then 1 else 0 := by
    rw [usageSum,usageSum,inserted,sumInsert]
  split at grown
  · rename_i own
    rw [if_pos own]
    omega
  · rename_i other
    rw [if_neg other]
    omega

theorem redeemedCredited (user : (db.users.get? userId).isSome = true) : (success db db' key userId code).Credited := by
  obtain ⟨u,found⟩ := isSome_iff_exists.mp user
  refine ⟨u.quota,u.promoQuota,?_,?_⟩
  · simp only [success,balances,found,map_some]
  · simp only [success,balances,done.users,Database.credit,getModifySelf,found,map_some]

structure Sound (start : Database) (sys : CodeSystem) : Prop where
  limited : Limited start sys
  rows : ∀ key, usageRows sys.db key = usageRows start key + succeeded sys.successes key
  users : ∀ k, k ∈ start.usages.keys ∨ (∃ s ∈ sys.successes, (s.key,s.userId) = k) → k ∈ sys.db.usages.keys
  roomy : Roomy sys.db

theorem redeemedCode {k c} (found : db'.redemptions.get? k = some c) :
    (k = key ∧ c = redeemed userId now code) ∨ k ≠ key ∧ db.redemptions.get? k = some c := by
  obtain ⟨_,there,same,rfl⟩ | before := modifyCases (done.codes ▸ found)
  · cases done.found.symm.trans there
    exact .inl ⟨same,rfl⟩
  · exact .inr before

end

theorem soundRedeemed {sys} (sound : Sound start sys) (done : Redeemed sys.db db' key userId sys.clock code)
    (user : (sys.db.users.get? userId).isSome = true) :
    Sound start { sys with db := db', successes := success sys.db db' key userId code :: sys.successes } := by
  obtain ⟨fresh,inserted⟩ := done.inserted
  have room := sound.roomy key code done.found done.enabled
  have count := sound.limited.counted key code done.found
  have rows := sound.rows key
  have unused : ∀ s ∈ sys.successes, (s.key,s.userId) ≠ (key,userId) := by
    intro s mem same
    exact fresh (sound.users _ (.inr ⟨s,mem,same⟩))
  refine ⟨⟨⟨?_,sound.limited.limits⟩,?_,?_,?_,?_⟩,?_,?_,?_⟩
  · rw [succeededCons,if_pos rfl]
    simp only [success]
    omega
  · refine nodup_cons.mpr ⟨?_,sound.limited.once⟩
    intro mem
    obtain ⟨s,earlier,same⟩ := List.mem_map.mp mem
    exact unused s earlier same
  · intro s mem
    obtain rfl | earlier := mem_cons.mp mem
    · exact fun taken => fresh (sound.users _ (.inl taken))
    · exact sound.limited.first s earlier
  · intro k c found
    obtain ⟨rfl,rfl⟩ | ⟨other,before⟩ := redeemedCode done found
    · rw [redeemedRows done,if_pos rfl]
      simp only [redeemed]
      omega
    · rw [redeemedRows done,if_neg (Ne.symm other)]
      exact sound.limited.counted k c before
  · intro s mem
    obtain rfl | earlier := mem_cons.mp mem
    · exact redeemedCredited done user
    · exact sound.limited.credited s earlier
  · intro k
    have before := sound.rows k
    rw [redeemedRows done,succeededCons,before]
    exact add_assoc _ _ _
  · intro k taken
    rw [inserted]
    refine (getKeys.mpr ?_)
    rw [getInsert]
    split
    · exact ⟨_,rfl⟩
    rename_i other
    refine getKeys.mp (sound.users k (taken.imp_right ?_))
    rintro ⟨s,mem,rfl⟩
    obtain rfl | earlier := mem_cons.mp mem
    · exact absurd rfl other
    · exact ⟨s,earlier,rfl⟩
  · intro k c found enabled
    obtain ⟨rfl,rfl⟩ | ⟨_,before⟩ := redeemedCode done found
    · -- Still enabled, so this was not the last redemption.
      simp only [redeemed] at enabled ⊢
      split at enabled
      · cases enabled
      · rename_i left
        exact not_le.mp left
    · exact sound.roomy k c before enabled

theorem soundUpdated {sys copy updates} (sound : Sound start sys) (room : ∀ current, sys.db.redemptions.get? key = some current →
      copy.status = .enabled → current.redeemedCount < effectiveMaxRedeems copy) : Sound start { sys with
      db := { sys.db with redemptions := sys.db.redemptions.modify key (update copy) }, updates := updates } := by
  refine ⟨⟨sound.limited.limits,sound.limited.once,sound.limited.first,?_,sound.limited.credited⟩,sound.rows,sound.users,?_⟩
  · intro k c found
    obtain ⟨current,row,rfl,rfl⟩ | ⟨_,before⟩ := modifyCases found
    · exact sound.limited.counted k current row
    · exact sound.limited.counted k c before
  · intro k c found enabled
    obtain ⟨current,row,rfl,rfl⟩ | ⟨_,before⟩ := modifyCases found
    · exact room current row enabled
    · exact sound.roomy k c before enabled

theorem soundStep (p sys op) (sound : Sound start sys) (leaves : LeavesRoom sys op) : Sound start (codeStep p sys op) := by
  have quiet : ∀ clock updates, Sound start ⟨sys.db,clock,updates,sys.successes⟩ := fun _ _ =>
    ⟨⟨sound.limited.limits,sound.limited.once,sound.limited.first,sound.limited.counted,sound.limited.credited⟩,
      sound.rows,sound.users,sound.roomy⟩
  cases op with
  | elapse => exact quiet _ _
  | redeem =>
    simp only [codeStep]
    split
    · rename_i quota db' code ok found
      obtain ⟨_,done⟩ := redeemSpec ok
      cases some.inj (done.found.symm.trans found)
      exact soundRedeemed sound done leaves
    · exact sound
  | beginUpdate =>
    simp only [codeStep]
    split
    · exact quiet _ _
    · exact sound
  | finishUpdate =>
    simp only [codeStep]
    split
    · exact sound
    · rename_i key copy taken
      exact soundUpdated sound (fun current row => leaves _ taken current row)

def opening (db : Database) (clock : Int) : CodeSystem := ⟨db,clock,[],[]⟩

theorem redemptionsLimited {p : Pricing} {start : Database} {clock : Int} {ops : List CodeOp}
    (counted : ∀ key code, start.redemptions.get? key = some code → code.redeemedCount = usageRows start key)
    (roomy : Roomy start) (leaves : Along (codeStep p) LeavesRoom (opening start clock) ops) :
    Always (codeStep p) (Limited start) (opening start clock) ops := by
  have sound : Sound start (opening start clock) := by
    refine ⟨⟨trivial,nodup_nil,fun s mem => absurd mem not_mem_nil,counted,fun s mem => absurd mem not_mem_nil⟩,
      fun _ => rfl,?_,roomy⟩
    rintro k (taken | ⟨s,mem,_⟩)
    · exact taken
    · exact absurd mem not_mem_nil
  exact alwaysMono (fun _ after => after.limited) (alwaysKept (fun s op => soundStep p s op) sound leaves)

instance (sys op) : Decidable (LeavesRoom sys op) := by cases op <;> (unfold LeavesRoom; infer_instance)

def dollarPricing : Pricing := ⟨⟨500000,1,Nat.one_pos⟩,⟨7,1,Nat.one_pos⟩,⟨7,5,by decide⟩⟩

def gift (maxRedeems redeemedCount : Int) : Redemption := ⟨.enabled,1000,maxRedeems,redeemedCount,0,0,0⟩

def giftShop (maxRedeems : Int) : Database := { Database.empty with
  users := ⟨[(1,freshUser .shipped "a"),(2,freshUser .shipped "b")],by decide⟩
  redemptions := ⟨[("LAUNCH",gift maxRedeems 0)],nodup_singleton _⟩ }

def limitTo (maxRedeems : Int) : RedemptionInput := ⟨.enabled,"usd",⟨0,1,Nat.one_pos⟩,0,maxRedeems,0⟩

theorem giftShopReady (maxRedeems) :
    (∀ key code, (giftShop maxRedeems).redemptions.get? key = some code → code.redeemedCount = usageRows (giftShop maxRedeems) key) ∧
    Roomy (giftShop maxRedeems) := by
  constructor
  · intro key code found
    cases mem_singleton.mp (getMem.mp found)
    rfl
  · intro _ _ found _
    cases mem_singleton.mp (getMem.mp found)
    change (0 : Int) < if maxRedeems ≤ 0 then 1 else maxRedeems
    split <;> omega

theorem raisedInTime : Always (codeStep dollarPricing) (Limited (giftShop 2)) (opening (giftShop 2) 100)
    [.redeem "LAUNCH" 1,.beginUpdate "LAUNCH" (limitTo 3) false,.finishUpdate 0,.redeem "LAUNCH" 2,.redeem "LAUNCH" 2] :=
  redemptionsLimited (giftShopReady 2).1 (giftShopReady 2).2 (by decide)

def renamedWhileRedeemed : List CodeOp :=
  [.beginUpdate "LAUNCH" (limitTo 0) false,.redeem "LAUNCH" 1,.finishUpdate 0,.redeem "LAUNCH" 2]

def loweredToCount : List CodeOp :=
  [.redeem "LAUNCH" 1,.beginUpdate "LAUNCH" (limitTo 1) false,.finishUpdate 0,.redeem "LAUNCH" 2]

theorem redeemedBeyondLimit : ¬ Always (codeStep dollarPricing) (Limited (giftShop 1)) (opening (giftShop 1) 100) renamedWhileRedeemed ∧
    ¬ Always (codeStep dollarPricing) (Limited (giftShop 2)) (opening (giftShop 2) 100) loweredToCount ∧
    ¬ Always (codeStep dollarPricing) (Limited (giftShop 1)) (opening (giftShop 1) 100) [.redeem "LAUNCH" 3] := by
  refine ⟨?_,?_,?_⟩
  · intro always
    have last := alwaysLast always
    exact absurd last.limits.1 (by decide)
  · intro always
    have last := alwaysLast always
    exact absurd last.limits.1 (by decide)
  · intro always
    have last := alwaysLast always
    obtain ⟨_,_,before,_⟩ := last.credited _ mem_cons_self
    cases before

end NovaPuraRouter.RedemptionLimit
