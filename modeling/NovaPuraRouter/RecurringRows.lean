import NovaPuraRouter.Recurring
import NovaPuraRouter.SeatEffect

/-! What the rows of a recurring subscription have in common at all times: one row for each
subscription and seat, an entitlement of its own, a seat that is closed with the
subscription and held as long as it is paid for. No order of events breaks this. -/
namespace NovaPuraRouter.Recurring
open StripeSeat List Table
open SubscriptionUsage (trimmed)

def Ended (s : StripeSubscription) : Prop := s.status = .canceled

def Closed (r : Reservation) : Prop := r.status = .released ∨ r.status = .expired

structure RowSound (seats : Table Nat Reservation) (entitlements : Table Nat Entitlement) (s : StripeSubscription) : Prop where
  seat : ∃ r, seats.get? s.reservationId = some r ∧ r.stripeSubscriptionId = s.stripeSubscriptionId ∧
    (Ended s → Closed r) ∧ (s.userSubscriptionId ≠ 0 → ¬ Ended s → r.status = .active)
  entitlement : s.userSubscriptionId ≠ 0 → ∃ e, entitlements.get? s.userSubscriptionId = some e ∧ (Ended s → e.active = false)
  keyed : trimmed s.stripeSubscriptionId = s.stripeSubscriptionId ∧ s.stripeSubscriptionId ≠ "" ∧ s.reservationId ≠ 0

structure Apart (s s' : StripeSubscription) : Prop where
  stripe : s.stripeSubscriptionId ≠ s'.stripeSubscriptionId
  seat : s.reservationId ≠ s'.reservationId
  entitlement : s.userSubscriptionId ≠ 0 → s.userSubscriptionId ≠ s'.userSubscriptionId

structure Sound (db : SeatStore) : Prop where
  rows : ∀ id s, db.subscriptions.get? id = some s → RowSound db.reservations db.entitlements s
  apart : ∀ i j s s', db.subscriptions.get? i = some s → db.subscriptions.get? j = some s' → i ≠ j → Apart s s'

structure Onto (s s' : StripeSubscription) : Prop where
  stripe : s'.stripeSubscriptionId = s.stripeSubscriptionId
  place : s'.reservationId = s.reservationId
  kept : s.userSubscriptionId ≠ 0 → s'.userSubscriptionId = s.userSubscriptionId
  final : Ended s → Ended s'

def Onward (db db' : SeatStore) : Prop :=
  ∀ id s, db.subscriptions.get? id = some s → ∃ s', db'.subscriptions.get? id = some s' ∧ Onto s s'

inductive SeatChange (now : Nat) (db db' : SeatStore) : Prop
  | effect {runtime aim} (effected : Effected runtime now aim db db')
  | session {id r sessionId customerId} (found : db.reservations.get? id = some r)
      (here : db' = setReservation db id { r with checkoutSessionId := sessionId, stripeCustomerId := customerId })

structure Kept (now : Nat) (db db' : SeatStore) : Prop where
  sound : Sound db'
  onward : Onward db db'
  changes : Relation.ReflTransGen (SeatChange now) db db'

variable {runtime : Option StripeSubscriptionConfig} {now id : Nat} {db db' db'' : SeatStore} {s s' : StripeSubscription} {r r' : Reservation}

section Frame

theorem Onto.refl (s) : Onto s s := ⟨rfl,rfl,fun _ => rfl,fun ended => ended⟩

theorem Onward.refl (db) : Onward db db := fun _ s here => ⟨s,here,.refl s⟩

theorem Onward.trans (first : Onward db db') (second : Onward db' db'') : Onward db db'' := by
  intro id s here
  obtain ⟨s1,here1,onto1⟩ := first id s here
  obtain ⟨s2,here2,onto2⟩ := second id s1 here1
  exact ⟨s2,here2,by grind [Onto]⟩

theorem Kept.refl (sound : Sound db) : Kept now db db := ⟨sound,.refl db,.refl⟩

theorem Kept.trans (first : Kept now db db') (second : Kept now db' db'') : Kept now db db'' :=
  ⟨second.sound,first.onward.trans second.onward,first.changes.trans second.changes⟩

theorem besideChange (beside : Aside db db') : SeatChange now db db' := @SeatChange.effect _ _ _ none none beside.effected

variable {α : Type} {t t' : Table Nat α} {a : α}

def Written {α : Type} (t t' : Table Nat α) (id : Nat) (a : α) : Prop := t'.get? id = some a ∧ ∀ j, j ≠ id → t'.get? j = t.get? j

def Beyond {α : Type} (id : Nat) (t t' : Table Nat α) : Prop := ∀ j a, j ≠ id → t.get? j = some a → t'.get? j = some a

theorem Beyond.refl (id) (t : Table Nat α) : Beyond id t t := fun _ _ _ here => here

theorem Written.beyond (written : Written t t' id a) : Beyond id t t' := fun j _ other here => (written.2 j other).trans here

theorem writtenSame (found : t.get? id = some a) : Written t t id a := ⟨found,fun _ _ => rfl⟩

theorem Written.modify (written : Written t t' id a) (f : α → α) : Written t (t'.modify id f) id (f a) := by
  grind [Written, Table.getModify]

theorem writtenModify (found : t.get? id = some a) (f : α → α) : Written t (t.modify id f) id (f a) := (writtenSame found).modify f

theorem writtenAppend (t : Table Nat α) (a) : Written t (t.append a) t.nextId a := by
  grind [Written, getAppend]

/- One row is written, with its seat and its entitlement. -/
variable (now id db db' s) in
structure Write : Prop where
  change : SeatChange now db db'
  row : Written db.subscriptions db'.subscriptions id s
  seats : Beyond s.reservationId db.reservations db'.reservations
  entitlements : Beyond s.userSubscriptionId db.entitlements db'.entitlements
  own : RowSound db'.reservations db'.entitlements s

variable (sound : Sound db)
include sound

theorem Write.kept (write : Write now id db db' s') (onto : ∀ s, db.subscriptions.get? id = some s → Onto s s')
    (apart : ∀ j t, j ≠ id → db.subscriptions.get? j = some t → Apart s' t) : Kept now db db' := by
  obtain ⟨change,row,seats,entitlements,own⟩ := write
  refine ⟨⟨fun j t here => ?_,?_⟩,?_,.single change⟩
  · by_cases same : j = id
    · grind [Written]
    · have before := (row.2 j same).symm.trans here
      have away := apart j t same before
      obtain ⟨⟨r,there,rest⟩,entitlement,keyed⟩ := sound.rows j t before
      exact ⟨⟨r,seats _ r away.seat.symm there,rest⟩,by grind [Beyond, Apart],keyed⟩
  · grind [Written, Sound, Apart]
  · grind [Written, Onward, Onto.refl]

theorem Write.onto (write : Write now id db db' s') (found : db.subscriptions.get? id = some s) (onto : Onto s s')
    (given : s'.userSubscriptionId = s.userSubscriptionId ∨ db.entitlements.get? s'.userSubscriptionId = none) : Kept now db db' := by
  refine write.kept sound (fun old row => ?_) (fun j t other here => ?_)
  · cases found.symm.trans row
    exact onto
  · have apart := sound.apart id j s t found here (Ne.symm other)
    have theirs := (sound.rows j t here).entitlement
    grind [Apart, Onto]

end Frame

section Seats

structure Goes (r r' : Reservation) : Prop where
  stripe : r'.stripeSubscriptionId = r.stripeSubscriptionId
  held : r.status = .active → r'.status = .active
  closed : Closed r → Closed r'

def Going (t t' : Table Nat Reservation) : Prop := ∀ id r, t.get? id = some r → ∃ r', t'.get? id = some r' ∧ Goes r r'

theorem Goes.refl (r) : Goes r r := ⟨rfl,id,id⟩

theorem Going.refl (t) : Going t t := fun _ r found => ⟨r,found,.refl r⟩

theorem goingSet {t : Table Nat Reservation} (found : t.get? id = some r) (goes : Goes r r') : Going t (t.modify id (fun _ => r')) := by
  have written := writtenModify found (fun _ => r')
  grind [Written, Going, Goes.refl]

theorem Going.append {t t'} (going : Going t t') {q} : Going t (t'.append q) := by
  intro id r found
  obtain ⟨r',found',goes⟩ := going id r found
  exact ⟨r',getAppendOld found' q,goes⟩

theorem goesWithdraw {status} (idle : r.status ≠ .active) (closed : status = .released ∨ status = .expired) : Goes r (withdraw status r) :=
  ⟨rfl,fun active => absurd active idle,fun _ => closed⟩

variable (sound : Sound db)
include sound

theorem goingKept (change : SeatChange now db db') (rows : db'.subscriptions = db.subscriptions)
    (entitlements : db'.entitlements = db.entitlements) (going : Going db.reservations db'.reservations) : Kept now db db' := by
  refine ⟨⟨fun id s found => ?_,rows ▸ sound.apart⟩,fun id s found => ⟨s,rows ▸ found,.refl s⟩,.single change⟩
  rw [rows] at found
  rw [entitlements]
  have was := sound.rows id s found
  obtain ⟨r,seat,_⟩ := was.seat
  obtain ⟨r',seat',goes⟩ := going _ r seat
  exact { was with seat := ⟨r',seat',by grind [Goes]⟩ }

theorem reserveKept {planId userId referenceId} (ok : reserveStripeSubscriptionSeatTx db planId userId referenceId now = .ok db') :
    Kept now db db' := by
  have change := @SeatChange.effect now _ _ none none (reserveEffect ok)
  simp only [reserveStripeSubscriptionSeatTx,createReservation,bindOk,requireOk] at ok
  obtain ⟨_,_,_,_,_,reclaimed,_,_,_,_,_,_,_,_,ok⟩ := ok
  cases pureOk.mp ok
  obtain rfl | ⟨_,_,_,found,idle,closed,rfl⟩ := reclaimCases reclaimed
  · exact goingKept sound change rfl rfl (Going.refl _).append
  · exact goingKept sound change rfl rfl (goingSet found (goesWithdraw idle closed)).append

theorem expireKept : Kept now db (expireStripeSubscriptionReservationsTx db now) := by
  refine goingKept sound (@SeatChange.effect _ _ _ none none ⟨rfl,.lapsed⟩) rfl rfl (fun _ r found => ?_)
  unfold expireStripeSubscriptionReservationsTx
  rw [getUpdate,found,Option.map_some]
  split
  · rename_i past
    exact ⟨_,rfl,goesWithdraw ((of_decide_eq_true past).1 ▸ by decide) (.inr rfl)⟩
  · exact ⟨_,rfl,.refl r⟩

theorem releaseKept (ok : releasePendingStripeSubscriptionReservation db id = .ok db') : Kept now db db' := by
  have change := @SeatChange.effect now _ _ none none (releasePendingEffect ok)
  simp only [releasePendingStripeSubscriptionReservation,bindOk,requireOk,rowOk] at ok
  obtain ⟨_,_,r,found,ok⟩ := ok
  have result := pureOk.mp ok
  split at result
  all_goals cases result
  · exact goingKept sound change rfl rfl (goingSet found (goesWithdraw (by grind) (.inl rfl)))
  · exact .refl sound

theorem sessionKept {sessionId customerId} (ok : setStripeSubscriptionCheckoutSessionDetails db id sessionId customerId now = .ok db') :
    Kept now db db' := by
  simp only [setStripeSubscriptionCheckoutSessionDetails,bindOk,requireOk,rowOk] at ok
  obtain ⟨_,_,r,found,ok⟩ := ok
  split at ok
  all_goals
    simp only [bindOk,requireOk] at ok
    obtain ⟨_,_,ok⟩ := ok
    cases pureOk.mp ok
  · exact goingKept sound (.session found rfl) rfl rfl (goingSet found ⟨rfl,fun active => active,fun closed => closed⟩)
  · exact .refl sound

end Seats

theorem findFound {x} (found : findByStripeId db x = some (id,s)) : db.subscriptions.get? id = some s := (headFound found).1

theorem lockSpec {x rid found} (ok : lockStripeSubscriptionRowsTx db x rid = .ok found) (named : trimmed x ≠ "") (given : rid ≠ 0) :
    found.elim (∀ j t, db.subscriptions.get? j = some t → t.stripeSubscriptionId ≠ trimmed x ∧ t.reservationId ≠ rid)
      (fun row => db.subscriptions.get? row.1 = some row.2) := by
  simp only [lockStripeSubscriptionRowsTx,if_neg named,if_neg given] at ok
  split at ok
  · rename_i first _
    split at ok <;> cases ok
    exact findFound first
  · rename_i first _
    cases ok
    exact findFound first
  · rename_i first
    cases ok
    cases second : findByReservation db rid with
    | none => exact fun _ _ row => ⟨of_decide_eq_false (headNone first row),of_decide_eq_false (headNone second row)⟩
    | some => exact (headFound second).1

theorem bindKept {b b' : Book} (sound : Sound b.seats) {input} (ok : b.bindStripeSubscriptionCheckout runtime input = .ok (s,b'))
    (plain : trimmed input.stripeSubscriptionId = input.stripeSubscriptionId) : Kept now b.seats b'.seats := by
  simp only [Book.bindStripeSubscriptionCheckout,bindOk,rowOk] at ok
  obtain ⟨_,ok,_,_,done⟩ := ok
  cases pureOk.mp done
  have change := @SeatChange.effect now _ _ runtime none (bindEffect ok)
  simp only [StripeSeat.bindStripeSubscriptionCheckout,bindOk,requireOk,rowOk] at ok
  obtain ⟨_,given,existing,locked,r,seat,_,_,_,_,_,_,_,same,_,_,ok⟩ := ok
  have seats := writtenModify seat (fun _ => bound input r)
  have known := lockSpec locked given.2.1 given.1
  cases existing with
  | some found =>
    obtain ⟨id,s⟩ := found
    simp only [attachSubscription,bindOk,requireOk] at ok
    obtain ⟨_,matched,ok⟩ := ok
    cases pureOk.mp ok
    have place : s.reservationId = input.reservationId := matched.2.2.1
    obtain ⟨⟨_,seat0,_,rest⟩,entitlement,keyed⟩ := sound.rows id s known
    rw [place] at seat0
    cases seat.symm.trans seat0
    exact Write.onto sound ⟨change,writtenModify known _,place ▸ seats.beyond,.refl _ _,
      ⟨bound input r,place ▸ seats.1,by grind [bound],rest⟩,entitlement,keyed⟩ known ⟨rfl,rfl,fun _ => rfl,fun ended => ended⟩ (.inl rfl)
  | none =>
    simp only [attachSubscription,createSubscription,bindOk,requireOk] at ok
    obtain ⟨_,_,ok⟩ := ok
    cases pureOk.mp ok
    refine Write.kept sound ⟨change,writtenAppend _ _,seats.beyond,.refl _ _,⟨_,seats.1,rfl,by rintro ⟨⟩,fun has => absurd rfl has⟩,
      fun has => absurd rfl has,⟨congrArg trimmed plain,given.2.1,given.1⟩⟩ (fun s here => ?_) (fun j t _ here => ?_)
    · cases (getNextId _).symm.trans here
    · exact ⟨(known j t here).1.symm,(known j t here).2.symm,fun has => absurd rfl has⟩

end NovaPuraRouter.Recurring
