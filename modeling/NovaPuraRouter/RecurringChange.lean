import NovaPuraRouter.RecurringRows

/-! What each transaction of the lifecycle does to the row it is about, to its seat and to
its entitlement: all of them keep the rows sound and leave an ended subscription ended. -/
namespace NovaPuraRouter.Recurring
open StripeSeat
open SubscriptionUsage (trimmed)

variable {runtime : Option StripeSubscriptionConfig} {planEnd : Nat → Nat} {b b' : Book} {db db' : SeatStore} {now id u : Nat}
variable {period : Period} {r : Reservation} {s s1 : StripeSubscription} {rows : Table Nat StripeSubscription} {input : InvoiceInput}

theorem restoreSeats (ok : b.restoreStripeSubscriptionEntitlementTx u period = .ok b') :
    StripeSeat.restoreStripeSubscriptionEntitlementTx b.seats u = .ok b'.seats := by
  unfold Book.restoreStripeSubscriptionEntitlementTx at ok
  split at ok
  · rename_i nothing
    cases ok
    exact if_pos nothing
  · simp only [bindOk] at ok
    obtain ⟨_,restored,ok⟩ := ok
    cases pureOk.mp ok
    exact restored

theorem createdSeats {userId planId plan} (ok : b.createUserSubscriptionFromPlanAtTx runtime planEnd userId planId plan now = .ok (u,b')) :
    u = b.seats.entitlements.nextId ∧ b'.seats = { b.seats with entitlements := b.seats.entitlements.append ⟨userId,planId,true⟩ } := by
  simp only [Book.createUserSubscriptionFromPlanAtTx,bindOk] at ok
  obtain ⟨⟨_,_⟩,made,ok⟩ := ok
  cases pureOk.mp ok
  exact createdEntitlement made

structure SameKeys (s s1 : StripeSubscription) : Prop where
  stripe : s1.stripeSubscriptionId = s.stripeSubscriptionId
  place : s1.reservationId = s.reservationId
  owner : s1.userSubscriptionId = s.userSubscriptionId

structure Ensured (db db' : SeatStore) (id u u' : Nat) (t : Table Nat Entitlement) : Prop where
  store : db' = { db with subscriptions := if u = 0 then db.subscriptions.modify id (entitled u') else db.subscriptions, entitlements := t }
  origin : u' = u ∨ u = 0 ∧ db.entitlements.get? u' = none
  here : ∃ e, t.get? u' = some e
  others : Beyond u' db.entitlements t

theorem ensureEnsured {plan} (ok : b.ensureStripeSubscriptionEntitlementTx runtime planEnd id u r plan period now = .ok b') :
    ∃ u' t, Ensured b.seats b'.seats id u u' t := by
  unfold Book.ensureStripeSubscriptionEntitlementTx at ok
  split at ok
  · rename_i nothing
    simp only [bindOk] at ok
    obtain ⟨⟨_,b1⟩,made,ok⟩ := ok
    obtain ⟨rfl,new⟩ := createdSeats made
    obtain ⟨zero,_⟩ | ⟨_,_,done⟩ := StripeSeat.restoreCases (restoreSeats ok)
    · exact absurd zero (Nat.succ_ne_zero _)
    simp only [Book.setSubscription,new] at done
    have written := (writtenAppend b.seats.entitlements ⟨r.userId,r.planId,true⟩).modify (fun e => { e with active := true })
    exact ⟨_,_,by rw [done,if_pos nothing],.inr ⟨nothing,Table.getNextId _⟩,⟨_,written.1⟩,written.beyond⟩
  · rename_i has
    obtain ⟨nothing,_⟩ | ⟨_,found,done⟩ := StripeSeat.restoreCases (restoreSeats ok)
    · exact absurd nothing has
    have written := writtenModify found (fun e => { e with active := true })
    exact ⟨u,_,by rw [done,if_neg has],.inl rfl,⟨_,written.1⟩,written.beyond⟩

variable (runtime db now id r) in
structure Taken (t : Table Nat Reservation) (claims : Table Nat FounderClaim) (x : String) : Prop where
  effect : Effected runtime now (some id) db { db with reservations := t, claims := claims }
  before : ∃ r0, db.reservations.get? id = some r0 ∧ ¬ Closed r0
  found : t.get? id = some r
  active : r.status = .active
  stripe : r.stripeSubscriptionId = x
  others : Beyond id db.reservations t

theorem activeTaken (found : db.reservations.get? id = some r) (active : r.status = .active) :
    Taken runtime db now id r db.reservations db.claims r.stripeSubscriptionId :=
  ⟨⟨rfl,.same⟩,⟨r,found,by grind [Closed]⟩,found,active,rfl,.refl _ _⟩

theorem activateTaken {sessionId customerId x priceId}
    (ok : activateStripeSubscriptionReservationTx runtime db id sessionId customerId x priceId now = .ok (r,db'))
    (plain : trimmed x = x) : ∃ t claims, db' = { db with reservations := t, claims := claims } ∧ Taken runtime db now id r t claims x := by
  have effect := activateTxEffect ok
  obtain ⟨rfl,found,active,rfl⟩ | ⟨old,plan,claimId,_,activation,rfl,rfl⟩ := activateCases ok
  · exact ⟨_,_,rfl,activeTaken found active⟩
  · have written := writtenModify activation.found (fun _ => activated plan old sessionId customerId x priceId claimId)
    exact ⟨_,_,rfl,effect,⟨old,activation.found,by grind [Closed, Activation]⟩,written.1,rfl,plain,written.beyond⟩

theorem ensuredKept {t t' claims u'} (sound : Sound db)
    (found : db.subscriptions.get? id = some s) (taken : Taken runtime db now s.reservationId r t claims s.stripeSubscriptionId)
    (written : Written db.subscriptions rows id s1) (keys : SameKeys s s1) (live : ¬ Ended s1)
    (ensured : Ensured { db with reservations := t, claims := claims, subscriptions := rows } db' id s.userSubscriptionId u' t') :
    Kept now db db' ∧ ∃ s', db'.subscriptions.get? id = some s' ∧ ¬ Ended s' := by
  have was := sound.rows id s found
  have alive : ¬ Ended s := by
    obtain ⟨_,seat,_,closed,_⟩ := was.seat
    grind [Taken]
  obtain ⟨rfl,origin,⟨e,there⟩,others⟩ := ensured
  -- the row gets a new entitlement or keeps the one it has
  have final : ∃ s', Written db.subscriptions (if s.userSubscriptionId = 0 then rows.modify id (entitled u') else rows) id s' ∧
      s'.stripeSubscriptionId = s.stripeSubscriptionId ∧ s'.reservationId = s.reservationId ∧ s'.userSubscriptionId = u' ∧ ¬ Ended s' := by
    split
    · exact ⟨entitled u' s1,written.modify _,keys.stripe,keys.place,rfl,by rintro ⟨⟩⟩
    · exact ⟨s1,written,keys.stripe,keys.place,by grind [SameKeys],live⟩
  obtain ⟨s',row,stripe,place,rfl,live'⟩ := final
  have own : RowSound t t' s' := by
    have keyed := was.keyed
    refine ⟨⟨r,?_⟩,fun _ => ⟨e,there,?_⟩,?_⟩ <;> grind [Taken]
  exact ⟨Write.onto sound ⟨.effect (taken.effect.aside ⟨rfl,rfl,rfl⟩),row,place ▸ taken.others,others,own⟩ found
    ⟨stripe,place,by grind,by grind⟩ (origin.imp_right And.right),s',row.1,live'⟩

theorem activateKept (sound : Sound b.seats) {input}
    (ok : b.activateStripeSubscriptionWithEntitlement runtime planEnd input period now = .ok b')
    (plain : trimmed input.stripeSubscriptionId = input.stripeSubscriptionId) : Kept now b.seats b'.seats := by
  simp only [Book.activateStripeSubscriptionWithEntitlement,bindOk,requireOk] at ok
  obtain ⟨_,given,existing,locked,⟨r,_⟩,done,_,_,ok⟩ := ok
  obtain ⟨t,claims,rfl,taken⟩ := activateTaken done plain
  have known := lockSpec locked given.2.1 given.1
  cases existing with
  | some found =>
    obtain ⟨id,s⟩ := found
    simp only [Book.attachEntitlement,bindOk,requireOk] at ok
    obtain ⟨_,matched,ok⟩ := ok
    obtain ⟨_,_,ensured⟩ := ensureEnsured ok
    rw [← matched.1,← matched.2.2.2] at taken
    exact (ensuredKept sound known taken (writtenModify known (reactivated input r.tier)) ⟨rfl,rfl,rfl⟩ (by rintro ⟨⟩) ensured).1
  | none =>
    simp only [Book.attachEntitlement,bindOk] at ok
    obtain ⟨⟨_,b1⟩,made,_,created,ok⟩ := ok
    obtain ⟨rfl,new⟩ := createdSeats made
    simp only [Book.setTerm,createSubscription,new,bindOk,requireOk] at created
    obtain ⟨_,_,created⟩ := created
    cases pureOk.mp created
    cases pureOk.mp ok
    have appended := writtenAppend b.seats.entitlements ⟨r.userId,r.planId,true⟩
    refine Write.kept sound ⟨.effect (taken.effect.aside ⟨rfl,rfl,rfl⟩),writtenAppend _ _,taken.others,appended.beyond,
      ⟨r,taken.found,taken.stripe.trans plain.symm,by rintro ⟨⟩,fun _ _ => taken.active⟩,fun _ => ⟨_,appended.1,by rintro ⟨⟩⟩,
      ⟨congrArg trimmed plain,given.2.1,given.1⟩⟩ (fun s here => ?_)
      (fun j t _ here => ⟨(known j t here).1.symm,(known j t here).2.symm,fun has same => ?_⟩)
    · cases (Table.getNextId _).symm.trans here
    · obtain ⟨e,there,_⟩ := (sound.rows j t here).entitlement (same ▸ has)
      rw [← same] at there
      cases (Table.getNextId _).symm.trans there

theorem invoiceKept (sound : Sound b.seats) (found : b.seats.subscriptions.get? id = some s)
    (live : ¬ Ended s) (ok : b.activateFromInvoice runtime planEnd id s period now = .ok b') :
    Kept now b.seats b'.seats ∧ ∃ s', b'.seats.subscriptions.get? id = some s' ∧ ¬ Ended s' := by
  simp only [Book.activateFromInvoice,bindOk,requireOk,rowOk] at ok
  obtain ⟨_,_,r,seat,ok⟩ := ok
  have was := sound.rows id s found
  split at ok
  · rename_i active
    simp only [bindOk] at ok
    obtain ⟨⟨_,_⟩,same,_,_,ok⟩ := ok
    cases pureOk.mp same
    obtain ⟨_,seat0,stripe,_⟩ := was.seat
    cases seat.symm.trans seat0
    obtain ⟨_,_,ensured⟩ := ensureEnsured ok
    exact ensuredKept sound found (stripe ▸ @activeTaken none _ now _ r seat active) (writtenSame found) ⟨rfl,rfl,rfl⟩ live ensured
  · simp only [bindOk] at ok
    obtain ⟨⟨_,_⟩,done,_,_,ok⟩ := ok
    obtain ⟨_,_,ensured⟩ := ensureEnsured ok
    obtain ⟨t,claims,rfl,taken⟩ := activateTaken done was.keyed.1
    exact ensuredKept sound found taken (writtenSame found) ⟨rfl,rfl,rfl⟩ live ensured

section Status
variable (sound : Sound db) (found : db.subscriptions.get? id = some s) (live : ¬ Ended s)
include sound found live

theorem openKept {status t} (open_ : status ≠ .canceled) (others : Beyond s.userSubscriptionId db.entitlements t)
    (here : s.userSubscriptionId ≠ 0 → ∃ e, t.get? s.userSubscriptionId = some e) :
    Kept now db { db with subscriptions := db.subscriptions.modify id (fun s => { s with status := status }), entitlements := t } := by
  obtain ⟨⟨r,seat,rest⟩,_,keyed⟩ := sound.rows id s found
  have own : RowSound db.reservations t { s with status := status } := by
    refine ⟨⟨r,seat,?_⟩,fun has => ?_,keyed⟩ <;> grind [Ended]
  exact Write.onto sound ⟨besideChange ⟨rfl,rfl,rfl⟩,writtenModify found _,.refl _ _,others,own⟩ found
    ⟨rfl,rfl,fun _ => rfl,fun ended => absurd ended live⟩ (.inl rfl)

theorem statusKept {status} (open_ : status ≠ .canceled) :
    Kept now db { db with subscriptions := db.subscriptions.modify id (fun s => { s with status := status }) } := by
  refine openKept sound found live open_ (.refl _ _) (fun has => ?_)
  obtain ⟨e,there,_⟩ := (sound.rows id s found).entitlement has
  exact ⟨e,there⟩

theorem resumeKept (here : b.seats = { db with subscriptions := db.subscriptions.modify id (fun s => { s with status := .active }) })
    (ok : b.restoreStripeSubscriptionEntitlementTx s.userSubscriptionId period = .ok b') : Kept now db b'.seats := by
  have restored := restoreSeats ok
  rw [here] at restored
  obtain ⟨_,done⟩ | ⟨e,there,done⟩ := StripeSeat.restoreCases restored
  · rw [done]
    exact statusKept sound found live (by decide)
  · have written := writtenModify there (fun e => { e with active := true })
    rw [done]
    exact openKept sound found live (by decide) written.beyond (fun _ => ⟨_,written.1⟩)

end Status

theorem extendSeats {graceUntil} (ok : b.extendStripeSubscriptionGraceEntitlementTx u graceUntil = .ok b') : b'.seats = b.seats := by
  unfold Book.extendStripeSubscriptionGraceEntitlementTx at ok
  split at ok
  · cases ok
    rfl
  simp only [bindOk,rowOk] at ok
  obtain ⟨e,_,ok⟩ := ok
  cases pureOk.mp ok
  split <;> rfl

theorem recordedKept {inserted} (sound : Sound db) (recorded : recordStripeSubscriptionInvoiceTx db input = .ok (inserted,db')) :
    Kept now db db' ∧ db'.subscriptions = db.subscriptions := by
  obtain ⟨_,rfl⟩ := recordedInvoice recorded
  exact ⟨goingKept sound (besideChange ⟨rfl,rfl,rfl⟩) rfl rfl (.refl _),rfl⟩

theorem renewKept {inserted seats x} (first : Kept now db b.seats) (found : b.seats.subscriptions.get? id = some s) (live : ¬ Ended s)
    (recorded : recordStripeSubscriptionInvoiceTx b.seats input = .ok (inserted,seats))
    (ok : (if inserted then Book.renewed { b with seats := seats } id x period else pure { b with seats := seats }) = .ok b') :
    Kept now db b'.seats := by
  obtain ⟨second,rows⟩ := recordedKept first.sound recorded
  have kept := first.trans second
  split at ok
  · simp only [Book.renewed,bindOk,rowOk,rows] at ok
    obtain ⟨_,found0,ok⟩ := ok
    cases found.symm.trans found0
    exact kept.trans (resumeKept second.sound (rows ▸ found) live rfl ok)
  · cases pureOk.mp ok
    exact kept

theorem paidKept (sound : Sound b.seats) (ok : b.applyStripeSubscriptionPaid runtime planEnd input period now = .ok b') :
    Kept now b.seats b'.seats := by
  simp only [Book.applyStripeSubscriptionPaid,bindOk,requireOk,rowOk] at ok
  obtain ⟨⟨id,s⟩,known,_,_,_,live,ok⟩ := ok
  split at ok
  all_goals
    simp only [bindOk] at ok
    obtain ⟨_,done,⟨_,_⟩,recorded,ok⟩ := ok
  · obtain ⟨first,_,found,live⟩ := invoiceKept sound (findFound known) live.1 done
    exact renewKept first found live recorded ok
  · cases pureOk.mp done
    exact renewKept (.refl sound) (findFound known) live.1 recorded ok

theorem failedKept (sound : Sound b.seats) {reason} (ok : b.markStripeSubscriptionPaymentFailedWithInvoice input reason now = .ok b') :
    Kept now b.seats b'.seats := by
  simp only [Book.markStripeSubscriptionPaymentFailedWithInvoice,bindOk,requireOk,rowOk] at ok
  obtain ⟨_,_,⟨id,s⟩,known,_,_,_,live,⟨_,seats⟩,recorded,ok⟩ := ok
  obtain ⟨first,rows⟩ := recordedKept sound recorded
  split at ok
  · rw [extendSeats ok]
    exact first.trans (statusKept first.sound (rows ▸ findFound known) live.1 (by decide))
  · cases pureOk.mp ok
    exact first

theorem canceledSpec (now) (s : StripeSubscription) : SameKeys s (canceled now s) ∧ (canceled now s).status = .canceled := by
  unfold canceled
  split
  · exact ⟨⟨rfl,rfl,rfl⟩,rfl⟩
  · rename_i done
    exact ⟨⟨rfl,rfl,rfl⟩,by_contra (fun open_ => done (.inl open_))⟩

theorem releaseSpec (ok : releaseHeld { db with subscriptions := rows } id = .ok db') (placed : id ≠ 0)
    (found : db.reservations.get? id = some r) : Effected runtime now none db db' ∧
    ∃ r' t, db' = { db with subscriptions := rows, reservations := t } ∧
      Written db.reservations t id r' ∧ r'.stripeSubscriptionId = r.stripeSubscriptionId ∧ Closed r' := by
  simp only [releaseHeld,releaseStripeSubscriptionReservationTx,require,row,found,if_neg placed,if_pos placed] at ok
  cases ok
  split
  · rename_i closed
    exact ⟨⟨rfl,.same⟩,r,_,rfl,writtenSame found,rfl,closed⟩
  · exact ⟨⟨rfl,.withdrawn (.seat found (.inl rfl))⟩,_,_,rfl,writtenModify found _,rfl,.inl rfl⟩

theorem expireSpec (ok : expireEntitlement db u = .ok db') : ∃ t, db' = { db with entitlements := t } ∧ Beyond u db.entitlements t ∧
    (u ≠ 0 → ∃ e, t.get? u = some e ∧ e.active = false) := by
  unfold expireEntitlement at ok
  split at ok
  · rename_i nothing
    cases ok
    exact ⟨_,rfl,.refl _ _,fun has => absurd nothing has⟩
  · simp only [bindOk,rowOk] at ok
    obtain ⟨e,found,ok⟩ := ok
    cases pureOk.mp ok
    have written := writtenModify found (fun e => { e with active := false })
    exact ⟨_,rfl,written.beyond,fun _ => ⟨_,written.1,rfl⟩⟩

/- The row may have been written in the same transaction, as it is when Stripe reports the end. -/
theorem endKept (sound : Sound db) (found : db.subscriptions.get? id = some s) (written : Written db.subscriptions rows id s1)
    (keys : SameKeys s s1) (here : b.seats = { db with subscriptions := rows }) (ok : b.endStripeSubscriptionTx id s now = .ok b') :
    Kept now db b'.seats := by
  simp only [Book.endStripeSubscriptionTx,StripeSeat.endStripeSubscriptionTx,here,bindOk] at ok
  obtain ⟨_,⟨_,released,expired⟩,ok⟩ := ok
  cases pureOk.mp ok
  obtain ⟨⟨r,seat,stripe,_⟩,_,keyed⟩ := sound.rows id s found
  obtain ⟨effect,r',t,rfl,seats,own,closed⟩ := releaseSpec released keyed.2.2 seat
  obtain ⟨t',rfl,others,inactive⟩ := expireSpec expired
  obtain ⟨⟨stripe',place,owner⟩,over_⟩ := canceledSpec now s1
  obtain ⟨stripe1,place1,owner1⟩ := keys
  rw [← place1,← place] at seats
  rw [← owner1,← owner] at others inactive
  have own : RowSound t t' (canceled now s1) := by
    refine ⟨⟨r',seats.1,?_⟩,fun has => ?_,?_⟩ <;> grind [Ended]
  exact Write.onto sound ⟨.effect (effect.aside ⟨rfl,rfl,rfl⟩ : Effected none now none db _),written.modify _,seats.beyond,others,own⟩ found
    ⟨stripe'.trans stripe1,place.trans place1,fun _ => owner.trans owner1,fun _ => over_⟩ (.inl (owner.trans owner1))

theorem updateKept (sound : Sound b.seats) {x status cancelAtPeriodEnd}
    (ok : b.updateStripeSubscriptionState x status cancelAtPeriodEnd period now = .ok b') : Kept now b.seats b'.seats := by
  simp only [Book.updateStripeSubscriptionState,bindOk,requireOk,rowOk] at ok
  obtain ⟨_,_,⟨id,s⟩,known,_,live,ok⟩ := ok
  have found := findFound known
  have set (open_ : status ≠ .canceled) : Kept now b.seats _ := statusKept sound found live.1 open_
  cases status with
  | canceled => exact endKept sound found (writtenModify found _) ⟨rfl,rfl,rfl⟩ rfl ok
  | active => exact resumeKept sound found live.1 rfl ok
  | pastDue =>
    rw [extendSeats ok]
    exact set (by decide)
  | unpaid =>
    dsimp only at ok
    split at ok
    · exact endKept sound found (writtenModify found _) ⟨rfl,rfl,rfl⟩ rfl ok
    · cases pureOk.mp ok
      exact set (by decide)
  | incomplete | trialing =>
    cases pureOk.mp ok
    exact set (by decide)

end NovaPuraRouter.Recurring
