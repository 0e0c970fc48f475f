import NovaPuraRouter.TopUpCredit

/-! What each way of completing a top-up order does: it finds the order pending, marks it as
successful and adds one amount to the quota of its user, or it changes nothing. -/
namespace NovaPuraRouter.TopUpSpec
open TopUpCredit

def quotaOf (l : Ledger) (userId : Nat) : Option Int := (l.users.get? userId).map Account.quota

structure SameOrder (t t' : TopUp) : Prop where
  userId : t'.userId = t.userId
  amount : t'.amount = t.amount
  money : t'.money = t.money
  provider : t'.paymentProvider = t.paymentProvider

structure Completion (l l' : Ledger) (tradeNo : String) (t : TopUp) (quota : Int) : Prop where
  found : l.topUps.get? tradeNo = some t
  pending : t.status = .pending
  orders : ∃ t', t'.status = .success ∧ SameOrder t t' ∧ ∀ k, l'.topUps.get? k = if k = tradeNo then some t' else l.topUps.get? k
  users : ∃ edit : Account → Account, (∀ u, (edit u).quota = u.quota + quota) ∧ l'.users = l.users.modify t.userId edit

variable {l l' : Ledger}

theorem completionQuota {tradeNo t quota} (done : Completion l l' tradeNo t quota) (u) :
    quotaOf l' u = (quotaOf l u).map (fun q => if u = t.userId then q + quota else q) := by
  obtain ⟨_,adds,written⟩ := done.users
  simp only [quotaOf,written,Table.getModify]
  split
  · rename_i same
    subst same
    cases l.users.get? t.userId with
    | none => rfl
    | some => simp [adds]
  · cases l.users.get? u with
    | none | some => rfl

theorem creditCompletion {l p t now quota edit}
    (found : l.topUps.get? p.tradeNo = some t) (pending : t.status = .pending) (adds : ∀ u, (edit u).quota = u.quota + quota) :
    Completion l (credit l p t now edit) p.tradeNo t quota := by
  refine ⟨found,pending,⟨completed t now p.paidAmountCents p.paidCurrency,rfl,⟨rfl,rfl,rfl,rfl⟩,?_⟩,edit,adds,rfl⟩
  intro k
  simp only [credit,Table.getModify,found,Option.map_some]

theorem callbackOk {p transaction} :
    callback p transaction = .ok l' ↔ p.tradeNo ≠ "" ∧ transaction = .ok l' := by
  unfold callback
  simp only [bindOk,requireOk]
  cases transaction with
  | error | ok => simp [Except.mapError]

theorem lockOk {tradeNo provider t}
    (ok : lockTopUp l tradeNo provider = .ok t) : l.topUps.get? tradeNo = some t ∧ t.paymentProvider = provider := by
  simp only [lockTopUp,bindOk,requireOk,rowOk,pureOk] at ok
  obtain ⟨_,found,_,same,rfl⟩ := ok
  exact ⟨found,same⟩

section Exact
variable {quotaPerUnit : Ratio} {stored : Ratio → Int} {convertAmountToUSDCents : Ratio → String → Int}
variable {l l' : Ledger} {p : Payment} {now : Int}

theorem rechargeExact (ok : recharge quotaPerUnit stored l p now = .ok l') :
    ∃ t, t.paymentProvider = .stripe ∧ Completion l l' p.tradeNo t (stripeQuota quotaPerUnit stored t) := by
  obtain ⟨_,ok⟩ := callbackOk.mp ok
  simp only [bindOk,requireOk,pureOk] at ok
  obtain ⟨t,locked,_,pending,_,_,rfl⟩ := ok
  obtain ⟨found,provider⟩ := lockOk locked
  exact ⟨t,provider,creditCompletion found pending (fun _ => rfl)⟩

theorem rechargeCreemExact (ok : rechargeCreem l p now = .ok l') :
    ∃ t, t.paymentProvider = .creem ∧ Completion l l' p.tradeNo t t.amount := by
  obtain ⟨_,ok⟩ := callbackOk.mp ok
  simp only [bindOk,requireOk,pureOk] at ok
  obtain ⟨t,locked,_,pending,_,_,_,_,rfl⟩ := ok
  obtain ⟨found,provider⟩ := lockOk locked
  exact ⟨t,provider,creditCompletion found pending (fun _ => rfl)⟩

theorem rechargeAmountExact {provider} (ok : rechargeAmount quotaPerUnit provider l p now = .ok l') :
    ∃ t, l.topUps.get? p.tradeNo = some t ∧ t.paymentProvider = provider ∧
      (t.status = .success ∧ l' = l ∨ Completion l l' p.tradeNo t (amountQuota quotaPerUnit t)) := by
  obtain ⟨_,ok⟩ := callbackOk.mp ok
  simp only [bindOk] at ok
  obtain ⟨t,locked,ok⟩ := ok
  obtain ⟨found,provider⟩ := lockOk locked
  refine ⟨t,found,provider,?_⟩
  split at ok
  · rename_i success
    exact .inl ⟨success,(pureOk.mp ok).symm⟩
  · simp only [bindOk,requireOk,pureOk] at ok
    obtain ⟨_,pending,_,_,_,_,rfl⟩ := ok
    exact .inr (creditCompletion found pending (fun _ => rfl))

theorem manualExact {tradeNo settles}
    (ok : manualCompleteTopUp quotaPerUnit convertAmountToUSDCents l tradeNo settles now = .ok l') :
    ∃ t user, l.topUps.get? tradeNo = some t ∧ l.users.get? t.userId = some user ∧ (t.status = .success ∧ l' = l ∨
        0 < manualQuota quotaPerUnit t ∧ Completion l l' tradeNo t (manualQuota quotaPerUnit t)) := by
  simp only [manualCompleteTopUp,bindOk,requireOk,rowOk] at ok
  obtain ⟨_,_,t,found,user,owner,ok⟩ := ok
  refine ⟨t,user,found,owner,?_⟩
  split at ok
  · rename_i success
    exact .inl ⟨success,(pureOk.mp ok).symm⟩
  simp only [bindOk,requireOk,pureOk] at ok
  obtain ⟨_,pending,_,_,_,positive,_,_,_,_,rfl⟩ := ok
  have same : (manualPayment convertAmountToUSDCents tradeNo t settles).tradeNo = tradeNo := by
    unfold manualPayment
    split <;> rfl
  have done := @creditCompletion l (manualPayment convertAmountToUSDCents tradeNo t settles) t now _ _
    (same.symm ▸ found) pending (fun u => show (addQuota (manualQuota quotaPerUnit t) u).quota = _ from rfl)
  rw [same] at done
  exact .inr ⟨positive,done⟩

end Exact
end NovaPuraRouter.TopUpSpec
