import Mathlib.Data.List.TakeWhile

/-! Text whose characters may carry a mark, such as where they come from. The marks
never steer an operation: taking them off before it or after it gives the same. -/
namespace NovaPuraRouter
open List

/-- A kind of character, with the mark that a program's own text gets. -/
class Marked (α : Type) where
  chr : α → Char
  lit : Char → α
  chrLit : ∀ c, chr (lit c) = c

instance : Marked Char := ⟨id,id,fun _ => rfl⟩

namespace MarkedText
variable {α : Type} [Marked α] (t : List α)

open Marked

def plain : List Char := t.map chr

def lits (t : List Char) : List α := t.map lit

@[simp] theorem plainLits (t) : plain (lits t : List α) = t := by
  simp [plain,lits,Function.comp_def,chrLit]

@[simp] theorem plainSelf (t) : plain t = t := map_id t

@[simp] theorem plainNil : plain ([] : List α) = [] := rfl

@[simp] theorem plainAppend (a b : List α) : plain (a ++ b) = plain a ++ plain b := map_append

def blank (c : α) : Bool := (chr c).isWhitespace

def trim : List α := ((t.dropWhile blank).reverse.dropWhile blank).reverse

theorem plainDropWhile : plain (t.dropWhile blank) = (plain t).dropWhile blank := by
  induction t with
  | nil => rfl
  | cons c _ ih =>
    by_cases space : (chr c).isWhitespace = true
    · simpa [plain,blank,chr,space] using ih
    · simp [plain,blank,chr,space]

theorem plainReverse : plain t.reverse = (plain t).reverse := map_reverse

@[simp] theorem plainTrim : plain (trim t) = trim (plain t) := by
  simp only [trim,plainReverse,plainDropWhile]

theorem blankOfTrim {t : List α} (empty : trim t = []) {c : α} (mem : c ∈ t) : blank c = true := by
  have inner : ∀ d ∈ t.dropWhile blank, blank d = true := by
    intro d inside
    rw [trim,reverse_eq_nil_iff,dropWhile_eq_nil_iff] at empty
    exact empty d (mem_reverse.mpr inside)
  rw [← @takeWhile_append_dropWhile _ blank t] at mem
  rcases mem_append.mp mem with outer | inside
  · exact mem_takeWhile_imp outer
  · exact inner c inside

def splitOn (sep : Char) : List α → List (List α)
  | [] => [[]]
  | c :: rest => if chr c = sep then [] :: splitOn sep rest else
    match splitOn sep rest with
    | [] => [[c]]
    | first :: others => (c :: first) :: others

theorem plainSplit (sep) (t : List α) : (splitOn sep t).map plain = splitOn sep (plain t) := by
  induction t with
  | nil => rfl
  | cons c rest ih =>
    show _ = splitOn sep (chr c :: plain rest)
    simp only [splitOn]
    by_cases same : chr c = sep
    · have again : (chr (chr c) : Char) = sep := same
      rw [if_pos same,if_pos again,map_cons,ih]
      rfl
    have other : ¬ (chr (chr c) : Char) = sep := same
    rw [if_neg same,if_neg other,← ih]
    cases splitOn sep rest with
    | nil | cons => rfl

def join (sep : Char) : List (List α) → List α
  | [] => []
  | [t] => t
  | t :: rest => t ++ lit sep :: join sep rest

theorem plainJoin (sep) (ts : List (List α)) : plain (join sep ts) = join sep (ts.map plain) := by
  induction ts with
  | nil => rfl
  | cons t rest ih =>
    cases rest with
    | nil => rfl
    | cons next others =>
      show plain (t ++ lit sep :: join sep (next :: others)) = plain t ++ sep :: join sep ((next :: others).map plain)
      rw [plainAppend,← ih]
      simp [plain,chrLit]

def uniq : List (List α) → List (List α)
  | [] => []
  | t :: rest => t :: (uniq rest).filter (fun u => plain u ≠ plain t)

theorem plainUniq (ts : List (List α)) : (uniq ts).map plain = uniq (ts.map plain) := by
  induction ts with
  | nil => rfl
  | cons _ _ ih =>
    simp only [uniq,map_cons,plainSelf,← ih,filter_map,Function.comp_def]

def starts : List Char → List α → Bool
  | [],_ => true
  | _ :: _,[] => false
  | p :: pattern,c :: rest => decide (chr c = p) && starts pattern rest

theorem startsPlain (pattern) (t : List α) : starts pattern (plain t) = starts pattern t := by
  induction pattern generalizing t with
  | nil => rfl
  | cons p pattern ih =>
    cases t with
    | nil => rfl
    | cons c rest =>
      show (decide (chr (chr c) = p) && starts pattern (plain rest)) = _
      rw [ih]
      rfl

theorem startsSplit {pattern : List Char} {t : List α} (h : starts pattern t = true) :
    plain t = pattern ++ plain (t.drop pattern.length) := by
  induction pattern generalizing t with
  | nil => rfl
  | cons _ _ ih =>
    cases t with
    | nil => cases h
    | cons =>
      simp only [starts,Bool.and_eq_true,decide_eq_true_eq] at h
      have tail := ih h.2
      simp only [plain,map_cons,h.1,cons_append,length_cons,drop_succ_cons] at tail ⊢
      rw [tail]

theorem plainDrop (n) (t : List α) : plain (t.drop n) = (plain t).drop n := map_drop

section Substitution
variable (head : Char) (tail key : List Char) (trusted : α → Bool)

def trustedStart (t : List α) : Bool := (t.take (tail.length + 1)).all trusted

/- Every occurrence of the pattern whose characters are all trusted becomes the key,
from left to right; the counter skips what an occurrence has used up. -/
def substitute : Nat → List α → List Char
  | _,[] => []
  | n + 1,_ :: rest => substitute n rest
  | 0,c :: rest => if starts (head :: tail) (c :: rest) && trustedStart tail trusted (c :: rest)
    then key ++ substitute tail.length rest else chr c :: substitute 0 rest

-- How many occurrences have a character that is not trusted.
def foreign : List α → Nat
  | [] => 0
  | c :: rest => (if starts (head :: tail) (c :: rest) && !trustedStart tail trusted (c :: rest) then 1 else 0) + foreign rest

variable {head tail key trusted}

theorem substituteSkip (n t) : substitute head tail key trusted n t = substitute head tail key trusted 0 (t.drop n) := by
  induction t generalizing n with
  | nil =>
    cases n <;> rfl
  | cons _ _ ih =>
    cases n with
    | zero => rfl
    | succ n => exact ih n

variable (head tail) in
theorem scanInduction {motive : List α → Prop} (nil : motive [])
    (other : ∀ c rest, starts (head :: tail) (c :: rest) = false → motive rest → motive (c :: rest))
    (hit : ∀ c rest, starts (head :: tail) (c :: rest) = true → motive (rest.drop tail.length) → motive (c :: rest)) (t) : motive t := by
  induction size : t.length using Nat.strongRecOn generalizing t with
  | ind n ih =>
    cases t with
    | nil => exact nil
    | cons c rest =>
      simp only [length_cons] at size
      cases found : starts (head :: tail) (c :: rest) with
      | false => exact other c rest found (ih rest.length (by omega) rest rfl)
      | true =>
        have less : (rest.drop tail.length).length < n := by
          rw [length_drop]
          omega
        exact hit c rest found (ih _ less _ rfl)

section Clean
variable {pattern : List Char} {t : List α} (fresh : head ∉ pattern) (here : starts pattern t = true)
include fresh here

theorem keptInside : foreign head tail trusted t = foreign head tail trusted (t.drop pattern.length) ∧
    substitute head tail key trusted 0 t = pattern ++ substitute head tail key trusted 0 (t.drop pattern.length) := by
  induction pattern generalizing t with
  | nil => exact ⟨rfl,rfl⟩
  | cons _ _ ih =>
    cases t with
    | nil => cases here
    | cons c rest =>
      simp only [starts,Bool.and_eq_true,decide_eq_true_eq] at here
      simp only [mem_cons,not_or] at fresh
      have nothing : starts (head :: tail) (c :: rest) = false := by
        simp [starts,here.1,Ne.symm fresh.1]
      obtain ⟨counts,leaves⟩ := ih fresh.2 here.2
      exact ⟨by simpa [foreign,nothing] using counts,by simpa [substitute,nothing,here.1] using leaves⟩

end Clean

section Steps
variable {c : α} {rest : List α}

theorem substituteOther (nothing : starts (head :: tail) (c :: rest) = false) :
    substitute head tail key trusted 0 (c :: rest) = chr c :: substitute head tail key trusted 0 rest := by
  simp [substitute,nothing]

theorem substituteHit (found : starts (head :: tail) (c :: rest) = true) (all : trustedStart tail trusted (c :: rest) = true) :
    substitute head tail key trusted 0 (c :: rest) = key ++ substitute head tail key trusted 0 (rest.drop tail.length) := by
  simp [substitute,found,all,substituteSkip tail.length rest]

variable (fresh : head ∉ tail)
include fresh

theorem substituteMiss (found : starts (head :: tail) (c :: rest) = true) (something : trustedStart tail trusted (c :: rest) = false) :
    substitute head tail key trusted 0 (c :: rest) = head :: tail ++ substitute head tail key trusted 0 (rest.drop tail.length) := by
  have parts := found
  simp only [starts,Bool.and_eq_true,decide_eq_true_eq] at parts
  simp only [substitute,something,Bool.and_false,Bool.false_eq_true,if_false,parts.1,cons_append]
  rw [(keptInside fresh parts.2).2]

theorem foreignHit (found : starts (head :: tail) (c :: rest) = true) : foreign head tail trusted (c :: rest) =
      (if trustedStart tail trusted (c :: rest) then 0 else 1) + foreign head tail trusted (rest.drop tail.length) := by
  have parts := found
  simp only [starts,Bool.and_eq_true,decide_eq_true_eq] at parts
  rw [← (keptInside fresh parts.2 : _ ∧ substitute head tail [] trusted 0 _ = _).1]
  cases all : trustedStart tail trusted (c :: rest) <;> simp [foreign,found,all]

end Steps

theorem foreignOther {c rest} (nothing : starts (head :: tail) (c :: rest) = false) :
    foreign head tail trusted (c :: rest) = foreign head tail trusted rest := by
  simp [foreign,nothing]

section Erased
variable {c : α} {rest : List α}

theorem everyStart (t : List Char) : trustedStart tail (fun _ => true) t = true := by simp [trustedStart]

theorem plainOther (nothing : starts (head :: tail) (c :: rest) = false) : substitute head tail key (fun _ => true) 0 (plain (c :: rest)) =
      chr c :: substitute head tail key (fun _ => true) 0 (plain rest) := by
  rw [← startsPlain] at nothing
  exact substituteOther nothing

theorem plainHit (found : starts (head :: tail) (c :: rest) = true) : substitute head tail key (fun _ => true) 0 (plain (c :: rest)) =
      key ++ substitute head tail key (fun _ => true) 0 (plain (rest.drop tail.length)) := by
  rw [← startsPlain] at found
  rw [plainDrop]
  exact substituteHit found (everyStart _)

end Erased

section Exact
variable (fresh : head ∉ tail)
include fresh

theorem substituteLength (t) :
    (substitute head tail key (fun _ => true) 0 (plain t)).length + (tail.length + 1) * foreign head tail trusted t =
      (substitute head tail key trusted 0 t).length + key.length * foreign head tail trusted t := by
  induction t using scanInduction (α := α) head tail with
  | nil => rfl
  | other _ _ none =>
    rw [plainOther none,substituteOther none,foreignOther none]
    simp only [length_cons]
    omega
  | hit c rest found =>
    rw [plainHit found,foreignHit fresh found]
    cases all : trustedStart tail trusted (c :: rest) with
    | true =>
      rw [substituteHit found all]
      simp only [if_true,Nat.zero_add,length_append]
      omega
    | false =>
      rw [substituteMiss fresh found all]
      simp only [Bool.false_eq_true,if_false,length_append,length_cons,Nat.mul_add,Nat.mul_one]
      omega

theorem substituteSame (size : key.length = tail.length + 1) (t)
    (same : substitute head tail key trusted 0 t = substitute head tail key (fun _ => true) 0 (plain t)) :
    foreign head tail trusted t = 0 ∨ key = head :: tail := by
  induction t using scanInduction (α := α) head tail with
  | nil => exact .inl rfl
  | other _ _ none ih =>
    rw [plainOther none,substituteOther none] at same
    rw [foreignOther none]
    exact ih (List.cons.inj same).2
  | hit c rest found ih =>
    rw [plainHit found] at same
    rw [foreignHit fresh found]
    cases all : trustedStart tail trusted (c :: rest) with
    | true =>
      rw [substituteHit found all] at same
      simpa using ih (append_cancel_left same)
    | false =>
      rw [substituteMiss fresh found all] at same
      exact .inr (append_inj_left same (by simp [size])).symm

theorem substituteClean (t) (nothing : foreign head tail trusted t = 0) :
    substitute head tail key trusted 0 t = substitute head tail key (fun _ => true) 0 (plain t) := by
  induction t using scanInduction (α := α) head tail with
  | nil => rfl
  | other _ _ other ih =>
    rw [foreignOther other] at nothing
    rw [plainOther other,substituteOther other,ih nothing]
  | hit c rest found ih =>
    rw [foreignHit fresh found] at nothing
    cases all : trustedStart tail trusted (c :: rest) with
    | true =>
      rw [all,if_pos rfl,Nat.zero_add] at nothing
      rw [plainHit found,substituteHit found all,ih nothing]
    | false =>
      rw [all] at nothing
      simp at nothing

theorem foreignStays (t) (something : foreign head tail trusted t ≠ 0) : head ∈ substitute head tail key trusted 0 t := by
  induction t using scanInduction (α := α) head tail with
  | nil => exact absurd rfl something
  | other _ _ none ih =>
    rw [foreignOther none] at something
    rw [substituteOther none]
    exact mem_cons_of_mem _ (ih something)
  | hit c rest found ih =>
    rw [foreignHit fresh found] at something
    cases all : trustedStart tail trusted (c :: rest) with
    | true =>
      rw [all,if_pos rfl,Nat.zero_add] at something
      rw [substituteHit found all]
      exact mem_append_right _ (ih something)
    | false =>
      rw [substituteMiss fresh found all]
      exact mem_append_left _ mem_cons_self

theorem substituteSelf (t) : substitute head tail (head :: tail) trusted 0 t = plain t := by
  induction t using scanInduction (α := α) head tail with
  | nil => rfl
  | other _ _ none ih =>
    rw [substituteOther none,ih]
    rfl
  | hit c rest found ih =>
    have whole := startsSplit found
    rw [length_cons,drop_succ_cons] at whole
    cases all : trustedStart tail trusted (c :: rest) with
    | true => rw [substituteHit found all,ih,whole]
    | false => rw [substituteMiss fresh found all,ih,whole]

theorem substituteIff (t) : substitute head tail key trusted 0 t = substitute head tail key (fun _ => true) 0 (plain t) ↔
      foreign head tail trusted t = 0 ∨ key = head :: tail := by
  constructor
  · intro same
    by_cases size : key.length = tail.length + 1
    · exact substituteSame fresh size t same
    have lengths := @substituteLength α _ head tail key trusted fresh t
    rw [same] at lengths
    have product : (tail.length + 1) * foreign head tail trusted t = key.length * foreign head tail trusted t := by omega
    refine .inl (by_contra fun something => size ?_)
    exact (Nat.eq_of_mul_eq_mul_right (Nat.pos_of_ne_zero something) product).symm
  · rintro (nothing | rfl)
    · exact substituteClean fresh t nothing
    · rw [substituteSelf fresh,substituteSelf fresh,plainSelf]

end Exact

end Substitution

end MarkedText

end NovaPuraRouter
