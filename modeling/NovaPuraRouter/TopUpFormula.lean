import NovaPuraRouter.TopUpSpec

/-! The administrator's formula against those of the callbacks. The amount of a Creem order
is quota and not dollars, and Stripe's product of money and unit is not cut to an integer. -/
namespace NovaPuraRouter.TopUpFormula
open TopUpCredit TopUpSpec Option

section Formula
variable (quotaPerUnit : Ratio) (stored : Ratio → Int) (convertAmountToUSDCents : Ratio → String → Int)

def ownCallback (l : Ledger) (t : TopUp) (p : Payment) (actualType : String) (now : Int) : Option Ledger := match t.paymentProvider with
  | .stripe => (recharge quotaPerUnit stored l p now).toOption
  | .creem => (rechargeCreem l p now).toOption
  | .waffo => (rechargeWaffo quotaPerUnit l p now).toOption
  | .waffoPancake => (rechargeWaffoPancake quotaPerUnit l p now).toOption
  | .epay => some (epayNotify quotaPerUnit l p.tradeNo actualType)
  | .balance | .unset => none

def FormulasAgree (t : TopUp) : Prop := match t.paymentProvider with
  | .stripe => stored (Ratio.mul t.money quotaPerUnit) = Ratio.intPart (Ratio.mul t.money quotaPerUnit)
  | .creem => t.amount = Ratio.intPart (Ratio.mul (ofAmount t.amount) quotaPerUnit)
  | _ => True

def callbackQuota (t : TopUp) : Int := match t.paymentProvider with
  | .stripe => stripeQuota quotaPerUnit stored t
  | .creem => t.amount
  | _ => amountQuota quotaPerUnit t

variable {quotaPerUnit stored convertAmountToUSDCents}

theorem agreeIff (t) : manualQuota quotaPerUnit t = callbackQuota quotaPerUnit stored t ↔ FormulasAgree quotaPerUnit stored t := by
  unfold manualQuota callbackQuota FormulasAgree
  cases t.paymentProvider with
  | stripe | creem => exact eq_comm
  | _ => simp

variable {tradeNo actualType : String}

theorem epayCompletion {l t} (found : l.topUps.get? tradeNo = some t)
    (provider : t.paymentProvider = .epay) (pending : t.status = .pending) (positive : 0 < amountQuota quotaPerUnit t) :
    Completion l (epayNotify quotaPerUnit l tradeNo actualType) tradeNo t (amountQuota quotaPerUnit t) := by
  have read : epayRead l tradeNo actualType = some { t with paymentMethod := actualType, status := .success } := by
    simp [epayRead,found,provider,pending]
  have same : amountQuota quotaPerUnit { t with paymentMethod := actualType, status := .success } = amountQuota quotaPerUnit t := rfl
  simp only [epayNotify,read,epayIncrease,same,if_neg (not_lt.mpr (le_of_lt positive))]
  refine ⟨found,pending,⟨{ t with paymentMethod := actualType, status := .success },rfl,⟨rfl,rfl,rfl,rfl⟩,?_⟩,_,fun _ => rfl,rfl⟩
  intro k
  simp only [epaySave,Table.getModify,found,map_some]

theorem ownCompletion {l l' t p now}
    (found : l.topUps.get? p.tradeNo = some t) (pending : t.status = .pending) (positive : 0 < manualQuota quotaPerUnit t)
    (called : ownCallback quotaPerUnit stored l t p actualType now = some l') :
    Completion l l' p.tradeNo t (callbackQuota quotaPerUnit stored t) := by
  have own : ∀ {t₀ : TopUp} {quota : Int}, Completion l l' p.tradeNo t₀ quota → t₀ = t := fun done =>
    some.inj (done.found.symm.trans found)
  have ofAmountOk : ∀ {provider : PaymentProvider}, (rechargeAmount quotaPerUnit provider l p now).toOption = some l' →
      Completion l l' p.tradeNo t (amountQuota quotaPerUnit t) := by
    intro provider ok
    obtain ⟨t₀,found₀,_,⟨success,_⟩ | done⟩ := rechargeAmountExact (toOptionOk.mp ok)
    · cases some.inj (found₀.symm.trans found)
      exact absurd (success.symm.trans pending) (by simp)
    · exact own done ▸ done
  unfold ownCallback at called
  unfold callbackQuota
  split at called
  · rename_i provider
    obtain ⟨_,_,done⟩ := rechargeExact (toOptionOk.mp called)
    cases own done
    simpa only [provider] using done
  · rename_i provider
    obtain ⟨_,_,done⟩ := rechargeCreemExact (toOptionOk.mp called)
    cases own done
    simpa only [provider] using done
  · rename_i provider
    simpa only [provider] using ofAmountOk called
  · rename_i provider
    simpa only [provider] using ofAmountOk called
  · rename_i provider
    have amount : 0 < amountQuota quotaPerUnit t := by simpa [manualQuota,provider] using positive
    cases some.inj called
    simpa only [provider] using epayCompletion found provider pending amount
  · cases called
  · cases called

theorem completionsAgree {l l₁ l₂ t a b user}
    (owner : l.users.get? t.userId = some user) (first : Completion l l₁ tradeNo t a) (second : Completion l l₂ tradeNo t b) :
    (∀ u, quotaOf l₁ u = quotaOf l₂ u) ↔ a = b := by
  constructor
  · intro same
    have own := same t.userId
    rw [completionQuota first,completionQuota second] at own
    simp only [quotaOf,owner,map_some,if_true,some.injEq] at own
    omega
  · rintro rfl u
    rw [completionQuota first,completionQuota second]

theorem manualMatchesCallback {l l₁ l₂ : Ledger} {t : TopUp} {p : Payment} {actualType : String} {settles : Bool} {now later : Int}
    (found : l.topUps.get? p.tradeNo = some t) (pending : t.status = .pending)
    (manual : manualCompleteTopUp quotaPerUnit convertAmountToUSDCents l p.tradeNo settles now = .ok l₁)
    (called : ownCallback quotaPerUnit stored l t p actualType later = some l₂) :
    (∀ u, quotaOf l₁ u = quotaOf l₂ u) ↔ FormulasAgree quotaPerUnit stored t := by
  obtain ⟨_,_,found₀,owner,⟨success,_⟩ | ⟨positive,done⟩⟩ := manualExact manual
  · cases some.inj (found₀.symm.trans found)
    exact absurd (success.symm.trans pending) (by simp)
  · cases some.inj (found₀.symm.trans found)
    exact (completionsAgree owner done (ownCompletion found pending positive called)).trans (agreeIff t)

end Formula

def halfMillion : Ratio := ⟨500000,1,Nat.one_pos⟩

def dollars (money : Ratio) (_ : String) : Int := money.num

def orderOf (provider : PaymentProvider) : TopUp := ⟨1,1000,⟨10,1,Nat.one_pos⟩,"card",provider,0,.pending,0,""⟩

def buyer : Table Nat Account := ⟨[(1,⟨0,"",""⟩)],by decide⟩

def ledgerOf (provider : PaymentProvider) : Ledger := ⟨⟨[("T1",orderOf provider)],List.nodup_singleton _⟩,buyer⟩

def paidT1 : Payment := ⟨"T1",1000,"USD","",true⟩

theorem epayMatches : ∃ l₁ l₂, manualCompleteTopUp halfMillion dollars (ledgerOf .epay) "T1" true 0 = .ok l₁ ∧
    ownCallback halfMillion Ratio.intPart (ledgerOf .epay) (orderOf .epay) paidT1 "alipay" 0 = some l₂ ∧ ∀ u, quotaOf l₁ u = quotaOf l₂ u :=
  ⟨_,_,rfl,rfl,(@manualMatchesCallback halfMillion Ratio.intPart dollars (ledgerOf .epay) _ _ (orderOf .epay) paidT1 "alipay" true 0 0
    rfl rfl rfl rfl).mpr trivial⟩

theorem creemDiffers : ∃ l₁ l₂, manualCompleteTopUp halfMillion dollars (ledgerOf .creem) "T1" true 0 = .ok l₁ ∧
    ownCallback halfMillion Ratio.intPart (ledgerOf .creem) (orderOf .creem) paidT1 "" 0 = some l₂ ∧
    quotaOf l₁ 1 = some 500000000 ∧ quotaOf l₂ 1 = some 1000 :=
  ⟨_,_,rfl,rfl,by decide,by decide⟩

end NovaPuraRouter.TopUpFormula
