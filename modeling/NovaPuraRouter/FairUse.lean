import NovaPuraRouter.Execution
import NovaPuraRouter.Expiring
import NovaPuraRouter.Interval

/-! The fair-use script of one account, one step of the cache. Times are milliseconds of its
clock. A difference that would be negative is only compared with times, so it is cut at
zero. The seconds are a sum of doubles over the members of the window: what it comes to at a
time, cut to whole seconds as in a reply, is the parameter `seconds`. -/
namespace NovaPuraRouter.FairUse

def peakLimit : Nat := 10
def degradedLimit : Nat := 1
def concurrentSecondsLimit : Int := 1800
def successLimit : Nat := 600
def admittedLimit : Nat := 750
def windowMs : Nat := 600000
def staleMs : Nat := 45000
def strikeWindowMs : Nat := 3600000
def degradeMs : Nat := 1800000
def riskWindowMs : Nat := 86400000
def keyTtlMs : Nat := 7200 * 1000
def riskTtlMs : Nat := 172800 * 1000

inductive Reason
  | blank | alreadyAdmitted | concurrencyLimit | concurrentSecondsLimit | successRequestLimit | admittedRequestLimit
  | leaseNotFound | heartbeat | alreadyReleased | released | invalidAction
  deriving DecidableEq, Repr

structure LeaseRow where
  started : Nat
  charged : Nat
  heartbeat : Nat
  deriving DecidableEq, Repr

structure Segment where
  start : Nat
  stop : Nat
  lease : String
  deriving DecidableEq, Repr

/- The keys of one account. An event is named by its reason and the window it fell in. -/
structure FairStore where
  live : Expiring String LeaseRow
  expiry : Expiring String Nat
  window : Expiring Segment Nat
  total : Expiring String Nat
  success : Expiring String Nat
  penalty : Expiring String Nat
  riskIp : Expiring String Nat
  riskCountry : Expiring String Nat
  riskUa : Expiring String Nat
  events : Expiring (Reason × Nat) Nat

def FairStore.blank : FairStore := ⟨.blank,.blank,.blank,.blank,.blank,.blank,.blank,.blank,.blank,.blank⟩

structure RiskSignals where
  ip : String
  country : String
  ua : String

inductive Action
  | acquire (lease : String) (risk : RiskSignals)
  | heartbeat (lease : String)
  | release (lease : String) (completed : Bool)
  | invalid

structure Reply where
  allowed : Bool
  reason : Reason
  active : Nat
  concurrentSeconds : Int
  admitted : Nat
  successful : Nat
  effectiveLimit : Nat
  degradeUntil : Nat
  notify : Bool
  riskMarked : Bool
  strikeCount : Nat
  deriving DecidableEq, Repr

section Script
variable (seconds : Nat → Table Segment Nat → Int) (now : Nat) (s : FairStore)

def woken : FairStore :=
  ⟨s.live.wake now,s.expiry.wake now,s.window.wake now,s.total.wake now,s.success.wake now,s.penalty.wake now,
    s.riskIp.wake now,s.riskCountry.wake now,s.riskUa.wake now,s.events.wake now⟩

def expireAll : FairStore :=
  ⟨s.live.touch (now + keyTtlMs),s.expiry.touch (now + keyTtlMs),s.window.touch (now + keyTtlMs),s.total.touch (now + keyTtlMs),
    s.success.touch (now + keyTtlMs),s.penalty.touch (now + keyTtlMs),s.riskIp.touch (now + riskTtlMs),
    s.riskCountry.touch (now + riskTtlMs),s.riskUa.touch (now + riskTtlMs),s.events.touch (now + keyTtlMs)⟩

variable (lease : String)

def chargeInterval (start stop : Nat) : FairStore :=
  if stop ≤ start then s else
  if stop ≤ now - windowMs then s else
  { s with window := s.window.write (·.put ⟨max start (now - windowMs),stop,lease⟩ stop) }

def chargeLease (stop : Nat) : FairStore := match s.live.rows.get? lease with
  | none => s
  | some r => if r.charged < stop then
      let s := chargeInterval now s lease r.charged stop
      { s with live := s.live.write (·.put lease { r with charged := stop }) }
    else { s with live := s.live.write (·.put lease r) }

def removeLease : FairStore :=
  { s with live := s.live.write (·.erase lease), expiry := s.expiry.write (·.erase lease) }

def pruneStaleLease : FairStore :=
  let charged := match s.live.rows.get? lease with
    | some r => chargeLease now s lease (min now (r.heartbeat + staleMs))
    | none => s
  removeLease charged lease

def pruneStaleLeases : FairStore := run (pruneStaleLease now) s ((s.expiry.rows.select (fun _ score => score ≤ now)).map Prod.fst)

def chargeLiveLeases : FairStore := run (fun s lease => chargeLease now s lease now) s s.live.rows.keys

def pruneWindow : FairStore :=
  { s with
    total := s.total.write (·.retain (fun _ score => now - windowMs ≤ score))
    success := s.success.write (·.retain (fun _ score => now - windowMs ≤ score))
    window := s.window.write (·.retain (fun _ score => now - windowMs ≤ score)) }

def windowSum (window : Table Segment Nat) : Int :=
  window.sum (fun m score => if score ≤ now then overlap (now - windowMs) now m.start m.stop else 0)

/- The milliseconds of the members, as an exact sum. -/
def concurrentMs : Int := windowSum now s.window.rows

def exactSeconds (window : Table Segment Nat) : Int := windowSum now window / 1000

def concurrentSeconds : Int := seconds now s.window.rows

def noteRisk (signals : Expiring String Nat) (signal : String) : Expiring String Nat :=
  (if signal = "" then signals else signals.write (·.put signal now)).write (·.retain (fun _ seen => now - riskWindowMs ≤ seen))

def recordRisk (risk : RiskSignals) : Bool × FairStore :=
  let ip := noteRisk now s.riskIp risk.ip
  let country := noteRisk now s.riskCountry risk.country
  (decide (8 ≤ ip.rows.size ∨ 3 ≤ country.rows.size),
    { s with riskIp := ip, riskCountry := country, riskUa := noteRisk now s.riskUa risk.ua })

def degradeUntil : Nat := (s.penalty.rows.get? "degrade_until").getD 0

def lastNotified : Nat := (s.penalty.rows.get? "last_notified").getD 0

def effectiveLimit : Nat := if now < degradeUntil s then degradedLimit else peakLimit

def strike (reason : Reason) : FairStore :=
  let event := (reason,now / windowMs)
  let inserted := if s.events.rows.get? event = none then s.events.write (·.put event now) else s.events
  { s with events := inserted.write (·.retain (fun _ seen => now - strikeWindowMs ≤ seen)) }

def recordExhaustion (reason : Reason) : Bool × FairStore :=
  let struck := strike now s reason
  if s.events.rows.get? (reason,now / windowMs) = none ∧ 3 ≤ struck.events.rows.size ∧ degradeUntil s ≤ now then
    let degraded := { struck with penalty := struck.penalty.write (·.put "degrade_until" (now + degradeMs)) }
    if lastNotified s = 0 ∨ lastNotified s + strikeWindowMs ≤ now then
      (true,{ degraded with penalty := degraded.penalty.write (·.put "last_notified" now) })
    else (false,degraded)
  else (false,struck)

def reply (allowed : Bool) (reason : Reason) (notify riskMarked : Bool) : Reply :=
  ⟨allowed,reason,s.live.rows.size,concurrentSeconds seconds now s,s.total.rows.size,s.success.rows.size,effectiveLimit now s,
    degradeUntil s / 1000,notify,riskMarked,s.events.rows.size⟩

def prepared : FairStore := pruneWindow now (chargeLiveLeases now (pruneStaleLeases now (woken now s)))

def exhausted : Option Reason :=
  if concurrentSecondsLimit ≤ concurrentSeconds seconds now s then some .concurrentSecondsLimit else
  if successLimit ≤ s.success.rows.size then some .successRequestLimit else
  if admittedLimit ≤ s.total.rows.size then some .admittedRequestLimit else none

def admitLease : FairStore :=
  { s with
    live := s.live.write (·.put lease ⟨now,now,now⟩)
    expiry := s.expiry.write (·.put lease (now + staleMs))
    total := s.total.write (·.put lease now) }

def answered (allowed : Bool) (reason : Reason) (notify riskMarked : Bool) : Reply × FairStore :=
  (reply seconds now (expireAll now s) allowed reason notify riskMarked,expireAll now s)

def acquire (risk : RiskSignals) : Reply × FairStore :=
  let (marked,s) := recordRisk now s risk
  if (s.live.rows.get? lease).isSome then answered seconds now s true .alreadyAdmitted false marked else
  if effectiveLimit now s ≤ s.live.rows.size then answered seconds now s false .concurrencyLimit false marked else
  match exhausted seconds now s with
  | some reason =>
    let (notify,s) := recordExhaustion now s reason
    answered seconds now s false reason notify marked
  | none => answered seconds now (admitLease now s lease) true .blank false marked

def beat : FairStore := match s.live.rows.get? lease with
  | none => s
  | some r =>
    { s with
      live := s.live.write (·.put lease { r with heartbeat := now })
      expiry := s.expiry.write (·.put lease (now + staleMs)) }

def heartbeat : Reply × FairStore :=
  if s.live.rows.get? lease = none then (reply seconds now s false .leaseNotFound false false,s) else
  let s := chargeLease now s lease now
  if concurrentSecondsLimit ≤ concurrentSeconds seconds now s then
    let (notify,s) := recordExhaustion now s .concurrentSecondsLimit
    answered seconds now (removeLease s lease) false .concurrentSecondsLimit notify false
  else answered seconds now (beat now s lease) true .heartbeat false false

def countSuccess : FairStore :=
  if s.success.rows.get? lease = none then { s with success := s.success.write (·.put lease now) } else s

def release (completed : Bool) : Reply × FairStore :=
  if s.live.rows.get? lease = none then (reply seconds now s true .alreadyReleased false false,s) else
  let s := removeLease (chargeLease now s lease now) lease
  let s := if completed then countSuccess now s lease else s
  answered seconds now s true .released false false

def act : Action → Reply × FairStore
  | .acquire lease risk => acquire seconds now s lease risk
  | .heartbeat lease => heartbeat seconds now s lease
  | .release lease completed => release seconds now s lease completed
  | .invalid => (reply seconds now s false .invalidAction false false,s)

def call (action : Action) : Reply × FairStore := act seconds now (prepared now s) action

end Script

end NovaPuraRouter.FairUse
