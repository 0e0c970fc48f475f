import NovaPuraRouter.Grants

/-! The daily check-in: a row unique for user and day, and an award. One strategy writes
both in a transaction, the other one after the other, and deletes the row where the award
fails. -/
namespace NovaPuraRouter.Checkin
open Grants Option Table

structure Store where
  checkins : Table (Nat × String) Int
  db : Database

inductive CheckinFailure | create | updateQuota
  deriving DecidableEq

section Strategies
variable (s : Store) (userId : Nat) (date : String) (award : Int) (fault : Bool)

def userCheckinWithTransaction : Store × Except CheckinFailure Unit := match s.checkins.insert? (userId,date) award with
  | none => (s,.error .create)
  | some checkins => if fault then (s,.error .updateQuota) else (⟨checkins,s.db.credit userId award 0⟩,.ok ())

-- The statement that may fail is not reached with an award of zero or less.
def awarded : Option Database := if fault && decide (0 < award) then none else (increaseUserPromoQuota s.db userId award).toOption

def userCheckinWithoutTransaction : Store × Except CheckinFailure Unit := match s.checkins.insert? (userId,date) award with
  | none => (s,.error .create)
  | some checkins => match awarded s userId award fault with
    | none => (⟨checkins.erase (userId,date),s.db⟩,.error .updateQuota)
    | some db => (⟨checkins,db⟩,.ok ())

def balances (db : Database) (id : Nat) : Option (Int × Int) := (db.users.get? id).map (fun u => (u.quota,u.promoQuota))

structure Same (a b : Store) : Prop where
  checkins : ∀ k, a.checkins.get? k = b.checkins.get? k
  balances : ∀ id, balances a.db id = balances b.db id

structure Alike (first second : Store × Except CheckinFailure Unit) : Prop where
  same : Same first.1 second.1
  undone : ∀ e, first.2 = .error e ∨ second.2 = .error e → Same first.1 s ∧ Same second.1 s

end Strategies

theorem awardedNone {s userId award fault} (failed : awarded s userId award fault = none) : award < 0 ∨ 0 < award ∧ fault = true := by
  unfold awarded increaseUserPromoQuota at failed
  by_cases low : award < 0
  · exact .inl low
  · split at failed
    · rename_i faulty
      simpa [and_comm] using Or.inr faulty
    · by_cases zero : award = 0 <;> simp [require,not_lt.mp low,zero,Except.toOption,bind,Except.bind,pure,Except.pure] at failed

theorem awardedSome {s userId award fault db} (paid : awarded s userId award fault = some db) :
    award = 0 ∧ db = s.db ∨ 0 < award ∧ fault = false ∧ db = s.db.credit userId award award := by
  unfold awarded at paid
  split at paid
  · cases paid
  rename_i sound
  simp only [toOptionOk,increaseUserPromoQuota,bindOk,requireOk] at paid
  obtain ⟨_,_,promo⟩ := paid
  split at promo
  · exact .inl ⟨‹_›,(pureOk.mp promo).symm⟩
  · rename_i something
    have pos : 0 < award := by omega
    exact .inr ⟨pos,by simpa [pos] using sound,(pureOk.mp promo).symm⟩

theorem sameSelf (s) : Same s s := ⟨fun _ => rfl,fun _ => rfl⟩

section Inserted
variable {s : Store} {userId : Nat} {date : String} {award : Int} {checkins : Table (Nat × String) Int}
  (inserted : s.checkins.insert? (userId,date) award = some checkins)
include inserted

theorem takenBack : Same ⟨checkins.erase (userId,date),s.db⟩ s := by
  obtain ⟨fresh,rfl⟩ := insertExact inserted
  refine ⟨fun k => ?_,fun _ => rfl⟩
  simp only [getErase,getInsert]
  split
  · rename_i own
    rw [own,eq_comm,← not_isSome_iff_eq_none,isSome_iff_exists,← getKeys]
    exact fresh
  · rfl

theorem checkedIn : checkins.get? (userId,date) = some award ∧ s.checkins.get? (userId,date) = none := by
  have back := (takenBack inserted).checkins (userId,date)
  obtain ⟨_,rfl⟩ := insertExact inserted
  rw [getErase,if_pos rfl] at back
  exact ⟨by rw [getInsert,if_pos rfl],back.symm⟩

end Inserted

theorem balancesCredit (db userId quota promo id) : balances (db.credit userId quota promo) id =
    (balances db id).map (fun b => if id = userId then (b.1 + quota,b.2 + promo) else b) := by
  simp only [balances,Database.credit,Table.getModify]
  split
  · rename_i own
    rw [own,Option.map_map,Option.map_map]
    rfl
  · rw [Option.map_map]
    rfl

theorem promoAlike {db : Database} {userId award} (pos : 0 < award) :
    (∀ id, balances (db.credit userId award 0) id = balances (db.credit userId award award) id) ↔ db.users.get? userId = none := by
  simp only [balancesCredit]
  constructor
  · intro same
    have own := same userId
    cases held : db.users.get? userId with
    | none => rfl
    | some =>
      simp [balances,held] at own
      omega
  · intro gone id
    by_cases own : id = userId <;> simp [own,balances,gone]

/-- The two strategies do the same exactly if the day is taken, or the balance cannot be
written and there is something to award, or it is written and there is nothing or nobody
to award. -/
theorem strategiesAlikeIff (s : Store) (userId : Nat) (date : String) (award : Int) (fault : Bool) :
    Alike s (userCheckinWithTransaction s userId date award fault) (userCheckinWithoutTransaction s userId date award fault) ↔
      (s.checkins.get? (userId,date)).isSome ∨ fault = true ∧ award ≠ 0 ∨
        fault = false ∧ (award = 0 ∨ 0 < award ∧ s.db.users.get? userId = none) := by
  unfold userCheckinWithTransaction userCheckinWithoutTransaction
  cases inserted : s.checkins.insert? (userId,date) award with
  | none =>
    refine iff_of_true ⟨sameSelf s,fun _ _ => ⟨sameSelf s,sameSelf s⟩⟩ (.inl ?_)
    unfold insert? at inserted
    split at inserted
    · cases inserted
    · rename_i taken
      exact isSome_iff_exists.mpr (getKeys.mp (not_not.mp taken))
  | some =>
    obtain ⟨here,fresh⟩ := checkedIn inserted
    have back := takenBack inserted
    simp only [fresh,isSome_none,Bool.false_eq_true,false_or]
    cases paid : awarded s userId award fault with
    | none =>
      have failed := awardedNone paid
      cases fault with
      | true => exact iff_of_true ⟨⟨fun k => (back.checkins k).symm,fun _ => rfl⟩,fun _ _ => ⟨sameSelf s,back⟩⟩ (.inl ⟨rfl,by omega⟩)
      | false =>
        refine iff_of_false (fun alike => ?_) ?_
        · have kept := alike.same.checkins (userId,date)
          simp [here,getErase] at kept
        · have low : award < 0 := failed.resolve_right (fun faulty => Bool.noConfusion faulty.2)
          rintro (⟨faulty,_⟩ | ⟨_,zero | ⟨pos,_⟩⟩)
          · cases faulty
          all_goals omega
    | some =>
      have given := awardedSome paid
      cases fault with
      | true =>
        have zero : award = 0 := given.elim (·.1) (fun paid => Bool.noConfusion paid.2.1)
        refine iff_of_false (fun alike => ?_) (by simp [zero])
        have kept := alike.same.checkins (userId,date)
        simp [here,fresh] at kept
      | false =>
        simp only [Bool.false_eq_true,if_false,false_and,false_or,true_and]
        obtain ⟨rfl,rfl⟩ | ⟨pos,_,rfl⟩ := given
        · refine iff_of_true ⟨⟨fun _ => rfl,fun id => ?_⟩,?_⟩ (.inl rfl)
          · rw [balancesCredit]
            simp
          · rintro _ (failed | failed) <;> cases failed
        · refine Iff.trans ⟨fun alike => alike.same.balances,fun same => ⟨⟨fun _ => rfl,same⟩,?_⟩⟩
            ((promoAlike pos).trans (by simp [pos,ne_of_gt pos]))
          rintro _ (failed | failed) <;> cases failed

def registered : Store where
  checkins := .empty
  db := { Database.empty with users := append .empty (freshUser .shipped "") }

theorem awardOutsidePromo : ¬ Alike registered (userCheckinWithTransaction registered 1 "2026-01-01" 5 false)
    (userCheckinWithoutTransaction registered 1 "2026-01-01" 5 false) := by
  intro alike
  have own := alike.same.balances 1
  revert own
  decide +kernel

end NovaPuraRouter.Checkin
