import NovaPuraRouter.FounderPrice
import NovaPuraRouter.RecurringChange

/-! Stripe's notices, checkouts and expiry passes in any order. A handler that fails may
leave the binding it has committed, and nothing else. -/
namespace NovaPuraRouter.Recurring
open StripeSeat

variable {runtime : Option StripeSubscriptionConfig} {planEnd : Nat → Nat} {b : Book} {now : Nat}

section Handle
variable (sound : Sound b.seats)
include sound

theorem settleKept {raised result} (step : ∀ b', result = .ok b' → Kept now b.seats b'.seats) :
    Kept now b.seats (settle b raised result).2.seats := by
  cases result with
  | ok b' => exact step b' rfl
  | error => exact .refl sound

theorem findKept {a} : Kept now b.seats (b.findRecurringSubscriptionFromEvent runtime a).2.seats := by
  unfold Book.findRecurringSubscriptionFromEvent
  split
  · exact .refl sound
  split
  · split <;> exact .refl sound
  split
  · exact .refl sound
  unfold Book.bindAnchored
  iterate 5
    split
    · exact .refl sound
  rename_i ok
  exact bindKept sound ok a.stripeSubscriptionId.plain

theorem foundKept {a matched o} {rest : Book → _ → _ × Book} [DecidablePred matched]
    (step : ∀ b s, Sound b.seats → Kept now b.seats (rest b s).2.seats) :
    Kept now b.seats (b.withFound runtime a (fun b s => if matched s then rest b s else (o,b))).2.seats := by
  have found := @findKept runtime b now sound a
  unfold Book.withFound
  split
  all_goals
    rename_i same
    rw [same] at found
  · exact found
  · dsimp only
    split
    · exact found.trans (step _ _ found.sound)
    · exact found

theorem completedKept (c) : Kept now b.seats (b.handleCheckoutCompleted runtime planEnd now c).2.seats := by
  unfold Book.handleCheckoutCompleted
  iterate 5
    split
    · exact .refl sound
  split
  · exact settleKept sound (fun b' ok => activateKept sound ok c.stripeSubscriptionId.plain)
  · refine settleKept sound (fun b' ok => ?_)
    obtain ⟨⟨s,_⟩,bound,rfl⟩ := mapOk.mp ok
    exact bindKept sound bound c.stripeSubscriptionId.plain

theorem expiredKept (referenceId sessionId contract) :
    Kept now b.seats (b.handleCheckoutExpired runtime referenceId sessionId contract).2.seats := by
  unfold Book.handleCheckoutExpired
  iterate 5
    split
    · exact .refl sound
  refine settleKept sound (fun b' ok => ?_)
  obtain ⟨db,released,rfl⟩ := mapOk.mp ok
  exact releaseKept sound released

theorem noticeKept (n) : Kept now b.seats (b.handleRecurringEvent runtime planEnd now n).2.seats := by
  cases n with
  | checkoutCompleted c => exact completedKept sound c
  | checkoutExpired referenceId sessionId contract => exact expiredKept sound referenceId sessionId contract
  | invoicePaid => exact foundKept sound (fun _ _ sound => settleKept sound (fun _ => paidKept sound))
  | invoicePaymentFailed => exact foundKept sound (fun _ _ sound => settleKept sound (fun _ => failedKept sound))
  | subscriptionUpdated =>
    refine foundKept sound (fun b s sound => ?_)
    split
    · exact .refl sound
    · exact settleKept sound (fun _ => updateKept sound)
  | subscriptionDeleted =>
    refine foundKept sound (fun b s sound => settleKept sound (fun b' ok => ?_))
    simp only [Book.endStripeSubscription,bindOk,requireOk] at ok
    obtain ⟨_,_,ok⟩ := ok
    split at ok
    · cases pureOk.mp ok
      exact .refl sound
    · rename_i known
      exact endKept sound (findFound known) (writtenSame (findFound known)) ⟨rfl,rfl,rfl⟩ rfl ok

theorem expireEachKept (ids) : Kept now b.seats (Book.expireEach now b ids).seats := by
  induction ids generalizing b with
  | nil => exact .refl sound
  | cons id rest ih =>
    unfold Book.expireEach
    split
    · rename_i b' ok
      have first : Kept now b.seats b'.seats := by
        unfold Book.expireOne at ok
        split at ok
        · cases ok
          exact .refl sound
        · rename_i found
          split at ok
          · exact endKept sound found (writtenSame found) ⟨rfl,rfl,rfl⟩ rfl ok
          · cases ok
            exact .refl sound
      exact first.trans (ih first.sound)
    · exact .refl sound

theorem commitKept {result : Except SeatFailure SeatStore} (step : ∀ db', result = .ok db' → Kept now b.seats db') :
    Kept now b.seats (commit b.seats result) := by
  cases result with
  | ok db' => exact step db' rfl
  | error => exact .refl sound

theorem performKept (h) : Kept now b.seats (b.perform runtime planEnd now h).seats := by
  cases h with
  | notice n => exact noticeKept sound n
  | reserve => exact commitKept sound (fun _ => reserveKept sound)
  | openSession => exact commitKept sound (fun _ => sessionKept sound)
  | releasePending => exact commitKept sound (fun _ => releaseKept sound)
  | expireSeats => exact expireKept sound
  | expireDue => exact expireEachKept sound _

end Handle

variable (runtime planEnd) in
def advance (s : Nat × Book) (e : Event) : Nat × Book :=
  (s.1 + e.elapsed,s.2.perform runtime planEnd (s.1 + e.elapsed) e.happening)

theorem rowsConsistent {start : Nat × Book} (sound : Sound start.2.seats) (events : List Event) :
    let final := run (advance runtime planEnd) start events
    Sound final.2.seats ∧ Onward start.2.seats final.2.seats := by
  induction events generalizing start with
  | nil => exact ⟨sound,.refl _⟩
  | cons e rest ih =>
    have first : Kept _ start.2.seats (advance runtime planEnd start e).2.seats := performKept sound e.happening
    exact (ih first.sound).imp_right first.onward.trans

section Seats
open SeatCapacity FounderClaim
variable {planId : Nat} {plan : RecurringPlan} {db db' : SeatStore} (limited : 0 < plan.founderPurchaseLimit)

variable (planId plan now db) in
structure Allotted : Prop where
  sold : db.plans.get? planId = some plan
  within : WithinCapacity ⟨now,db⟩
  slots : Slots planId plan now db.reservations db.claims

include limited in
theorem changeAllotted (change : SeatChange now db db') (allotted : Allotted now planId plan db) : Allotted now planId plan db' := by
  obtain ⟨sold,within,slots⟩ := allotted
  cases change with
  | @effect runtime aim effected =>
    have current : sampled now 0 = now := by grind [sampled]
    refine ⟨effected.1 ▸ sold,?_,slotsEffect sold limited slots effected.2⟩
    -- the effect is that of any operation with the same aim
    have named : ∃ op, target db op = aim := by
      cases aim with
      | none => exact ⟨.expire,rfl⟩
      | some id => exact ⟨.reconcile id "",rfl⟩
    obtain ⟨op,rfl⟩ := named
    rw [← current] at effected
    refine withinEffect within (fun id _ r _ pending => ?_) effected
    simp only [current,lapsed,unexpired,pending,true_and,decide_eq_true_eq]
    omega
  | @session id r _ _ found here =>
    subst here
    have derived := slots.keyed.derived id r found
    exact ⟨sold,fun _ _ sold => le_trans (seatsSet found rfl (fun live => live)) (within _ _ sold),
      slotsRow slots found (keyedSet slots.keyed found derived (.inr rfl)) rfl rfl (fun _ tier alive => ⟨tier,alive⟩)
        (fun _ tier waits => ⟨tier,waits⟩) (slots.backed id r found)⟩

include limited in
theorem seatsAllotted {start : Nat × Book} (sound : Sound start.2.seats) (allotted : Allotted start.1 planId plan start.2.seats)
    (events : List Event) :
    let final := run (advance runtime planEnd) start events
    Allotted final.1 planId plan final.2.seats ∧ Seated ⟨final.1,final.2.seats⟩ := by
  induction events generalizing start with
  | nil => exact ⟨allotted,seatedOf allotted.slots.keyed allotted.within⟩
  | cons e rest ih =>
    have past := Nat.le_add_right start.1 e.elapsed
    have later : Allotted (start.1 + e.elapsed) planId plan start.2.seats :=
      ⟨allotted.sold,fun _ _ sold => (seatsLater past).trans (allotted.within _ _ sold),slotsLater allotted.slots past⟩
    obtain ⟨sound',_,changes⟩ : Kept (start.1 + e.elapsed) start.2.seats (advance runtime planEnd start e).2.seats :=
      performKept sound e.happening
    refine ih sound' ?_
    generalize (advance runtime planEnd start e).2.seats = final at changes ⊢
    induction changes with
    | refl => exact later
    | tail _ change before => exact changeAllotted limited change before

def opening : Nat × Book :=
  (FounderClaim.opening.clock,⟨FounderClaim.opening.store,fun _ => ⟨⟨0,0⟩,0,false,"",""⟩,fun _ => ⟨0,0⟩⟩)

def ours : Anchor :=
  ⟨firstCheckout.stripeSubscriptionId,firstCheckout.customerId,firstCheckout.priceId,1,firstCheckout.referenceId,1,true,true⟩

def firstInvoice : Invoice := ⟨⟨"evt_1",by decide +kernel⟩,⟨"in_1",by decide +kernel⟩,by decide,⟨1000,3600⟩,true⟩

def paidCheckout : Checkout := ⟨true,true,firstCheckout.referenceId,firstCheckout.sessionId,firstCheckout.stripeSubscriptionId,
  firstCheckout.customerId,firstCheckout.priceId,1,⟨1000,3600⟩,true⟩

def paidUp : Nat × Book := run (advance (some sandboxConfig) id) opening
  [⟨0,.reserve 1 1 "a"⟩,⟨60,.openSession 1 "cs_1" "cus_1"⟩,⟨60,.notice (.checkoutCompleted paidCheckout)⟩,
   ⟨1,.notice (.invoicePaid ours firstInvoice)⟩]

def ended : Nat × Book := run (advance (some sandboxConfig) id) paidUp
  [⟨1800,.notice (.subscriptionDeleted ours)⟩,⟨0,.expireSeats⟩,⟨0,.expireDue 0⟩]

def statuses (s : Nat × Book) : List (RecurringStatus × Nat × Bool) :=
  s.2.seats.subscriptions.rows.map (fun e =>
    (e.2.status,e.2.userSubscriptionId,((s.2.seats.entitlements.get? e.2.userSubscriptionId).map (·.active)).getD false))

theorem openingSound : Sound opening.2.seats := by
  constructor
  · intro _ _ found
    cases found
  · intro _ _ _ _ found
    cases found

theorem endedConsistent : statuses paidUp = [(.active,1,true)] ∧ paidUp.2.seats.invoices.rows.map (·.1) = [("sub_1","in_1")] ∧
    statuses ended = [(.canceled,1,false)] ∧ Sound ended.2.seats ∧ Onward paidUp.2.seats ended.2.seats :=
  ⟨by decide +kernel,by decide +kernel,by decide +kernel,rowsConsistent (rowsConsistent openingSound _).1 _⟩

theorem openingWithin : WithinCapacity ⟨opening.1,opening.2.seats⟩ := by
  intro _ _ sold
  have mem := Table.getMem.mp sold
  cases List.mem_singleton.mp mem
  decide

theorem paidUpAllotted : paidUp.2.seats.claims.rows = [(1,⟨1,1,1⟩)] ∧
    Allotted paidUp.1 1 sandboxPlan paidUp.2.seats ∧ Seated ⟨paidUp.1,paidUp.2.seats⟩ := by
  have fresh := @ledgerFresh 1 sandboxPlan FounderClaim.opening (by decide +kernel) (by decide) rfl rfl rfl rfl
  exact ⟨by decide +kernel,seatsAllotted (by decide) openingSound ⟨fresh.sold,openingWithin,fresh.slots⟩ _⟩

end Seats

end NovaPuraRouter.Recurring
