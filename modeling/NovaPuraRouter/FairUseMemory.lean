import NovaPuraRouter.FairUseEffect

/-! The limiter that keeps its accounts in memory, which the policy tests run against. Times
are nanoseconds; zero is no time. Nothing depends on the order of a map's rows. -/
namespace NovaPuraRouter.FairUse.Memory

def second : Nat := 1000000000
def peakConcurrency : Nat := 10
def degradedConcurrency : Nat := 1
def concurrentSecondsBudget : Int := 1800
def successRequestLimit : Nat := 600
def admittedRequestLimit : Nat := 750
def windowDuration : Nat := 10 * 60 * second
def staleLeaseRecovery : Nat := 45 * second
def exhaustionStrikeThreshold : Nat := 3
def exhaustionStrikeWindow : Nat := 3600 * second
def degradationDuration : Nat := 30 * 60 * second
def riskSignalWindow : Nat := 24 * 3600 * second
def riskIPThreshold : Nat := 8
def riskCountryThreshold : Nat := 3

structure Snapshot where
  active : Nat
  concurrentSeconds : Int
  admitted : Nat
  successful : Nat
  effectiveConcurrency : Nat
  degraded : Bool
  degradeUntil : Option Nat
  exhaustionEvents : Nat
  deriving DecidableEq, Repr

structure Decision where
  allowed : Bool
  reason : Reason
  snapshot : Snapshot
  notifyRootAdmin : Bool
  riskMarked : Bool
  deriving DecidableEq, Repr

structure MemoryLease where
  lastHeartbeat : Nat
  lastCharged : Nat
  deriving DecidableEq, Repr

structure OccupancySegment where
  start : Nat
  stop : Nat
  deriving DecidableEq, Repr

structure MemoryEvent where
  time : Nat
  id : String
  deriving DecidableEq, Repr

structure MemoryAccount where
  leases : Table String MemoryLease
  occupancy : List OccupancySegment
  admitted : List MemoryEvent
  successful : List MemoryEvent
  exhaustionEvents : Table (Reason × Nat) Nat
  riskIPs : Table String Nat
  riskCountries : Table String Nat
  riskUserAgents : Table String Nat
  forcedConcurrentSeconds : Int
  degradeUntil : Option Nat
  lastNotification : Option Nat

def newMemoryAccount : MemoryAccount := ⟨.empty,[],[],[],.empty,.empty,.empty,.empty,0,none,none⟩

section Limiter
variable (now : Nat) (m : MemoryAccount) (lease : String)

def chargeLease (stop : Nat) : MemoryAccount := match m.leases.get? lease with
  | none => m
  | some l => if stop ≤ l.lastCharged then m else
      { m with
        occupancy := m.occupancy ++ [⟨l.lastCharged,stop⟩]
        leases := m.leases.put lease { l with lastCharged := stop } }

def chargeAll : MemoryAccount := run (fun m lease => chargeLease m lease now) m m.leases.keys

def pruneLease : MemoryAccount := match m.leases.get? lease with
  | none => m
  | some l => if l.lastHeartbeat + staleLeaseRecovery ≤ now then
      let m := chargeLease m lease (min (l.lastHeartbeat + staleLeaseRecovery) now)
      { m with leases := m.leases.erase lease }
    else m

def trimEvents (events : List MemoryEvent) (cutoff : Nat) : List MemoryEvent := events.filter (fun e => cutoff ≤ e.time)

def trimOccupancy (segments : List OccupancySegment) (cutoff : Nat) : List OccupancySegment :=
  (segments.filter (fun g => cutoff < g.stop)).map (fun g => { g with start := max g.start cutoff })

def trimRiskSignals (signals : Table String Nat) : Table String Nat := signals.retain (fun _ seen => now - riskSignalWindow ≤ seen)

def prune : MemoryAccount :=
  let m := run (pruneLease now) m m.leases.keys
  { m with
    admitted := trimEvents m.admitted (now - windowDuration)
    successful := trimEvents m.successful (now - windowDuration)
    occupancy := trimOccupancy m.occupancy (now - windowDuration)
    exhaustionEvents := m.exhaustionEvents.retain (fun _ seen => now - exhaustionStrikeWindow ≤ seen)
    riskIPs := trimRiskSignals now m.riskIPs
    riskCountries := trimRiskSignals now m.riskCountries
    riskUserAgents := trimRiskSignals now m.riskUserAgents }

def noteSignal (signals : Table String Nat) (signal : String) : Table String Nat :=
  if signal = "" then signals else signals.put signal now

variable (risk : RiskSignals)

def recordRisk : Bool × MemoryAccount :=
  let ips := noteSignal now m.riskIPs risk.ip
  let countries := noteSignal now m.riskCountries risk.country
  (decide (riskIPThreshold ≤ ips.size ∨ riskCountryThreshold ≤ countries.size),
    { m with riskIPs := ips, riskCountries := countries, riskUserAgents := noteSignal now m.riskUserAgents risk.ua })

def segmentSeconds (g : OccupancySegment) : Int := (overlap (now - windowDuration) now g.start g.stop / second : Nat)

def concurrentSeconds : Int :=
  let seconds := m.forcedConcurrentSeconds + (m.occupancy.map (segmentSeconds now)).sum
  if seconds < 0 then 0 else seconds

def recordExhaustion (reason : Reason) : Bool × MemoryAccount :=
  let key := (reason,now / second / (windowDuration / second))
  if (m.exhaustionEvents.get? key).isSome then (false,m) else
  let struck := { m with exhaustionEvents := m.exhaustionEvents.put key now }
  if struck.exhaustionEvents.size < exhaustionStrikeThreshold ∨ m.degradeUntil.any (fun d => now < d) then (false,struck) else
  let degraded := { struck with degradeUntil := some (now + degradationDuration) }
  if m.lastNotification.all (fun last => last + exhaustionStrikeWindow ≤ now) then
    (true,{ degraded with lastNotification := some now })
  else (false,degraded)

def effectiveConcurrency : Nat := if m.degradeUntil.any (fun d => now < d) then degradedConcurrency else peakConcurrency

def snapshot : Snapshot :=
  ⟨m.leases.size,concurrentSeconds now m,m.admitted.length,m.successful.length,effectiveConcurrency now m,
    m.degradeUntil.any (fun d => now < d),m.degradeUntil,m.exhaustionEvents.size⟩

def decisionWithRisk (allowed : Bool) (reason : Reason) (notify riskMarked : Bool) : Decision :=
  ⟨allowed,reason,snapshot now m,notify,riskMarked⟩

def exhausted : Option Reason :=
  if concurrentSecondsBudget ≤ concurrentSeconds now m then some .concurrentSecondsLimit else
  if successRequestLimit ≤ m.successful.length then some .successRequestLimit else
  if admittedRequestLimit ≤ m.admitted.length then some .admittedRequestLimit else none

def admitLease : MemoryAccount :=
  { m with leases := m.leases.put lease ⟨now,now⟩, admitted := m.admitted ++ [⟨now,lease⟩] }

def admission : Decision × MemoryAccount :=
  let (marked,m) := recordRisk now m risk
  if (m.leases.get? lease).isSome then (decisionWithRisk now m true .alreadyAdmitted false marked,m) else
  if effectiveConcurrency now m ≤ m.leases.size then (decisionWithRisk now m false .concurrencyLimit false marked,m) else
  match exhausted now m with
  | some reason =>
    let (notify,m) := recordExhaustion now m reason
    (decisionWithRisk now m false reason notify marked,m)
  | none => (decisionWithRisk now (admitLease now m lease) true .blank false marked,admitLease now m lease)

def acquireWithRisk : Decision × MemoryAccount :=
  admission now (chargeAll now (prune now m)) lease risk

def renewal : Option Reason × MemoryAccount := match m.leases.get? lease with
  | none => (some .leaseNotFound,m)
  | some _ =>
    let m := chargeLease m lease now
    if concurrentSecondsBudget ≤ concurrentSeconds now m then
      let m := (recordExhaustion now m .concurrentSecondsLimit).2
      (some .concurrentSecondsLimit,{ m with leases := m.leases.erase lease })
    else (none,{ m with leases := m.leases.modify lease (fun l => { l with lastHeartbeat := now }) })

def heartbeat : Option Reason × MemoryAccount := renewal now (prune now m) lease

def removal (completed : Bool) : Snapshot × MemoryAccount := match m.leases.get? lease with
  | none => (snapshot now m,m)
  | some _ =>
    let m := chargeLease m lease now
    let m := { m with leases := m.leases.erase lease }
    let m := if completed then { m with successful := m.successful ++ [⟨now,lease⟩] } else m
    (snapshot now m,m)

def release (completed : Bool) : Snapshot × MemoryAccount := removal now (prune now m) lease completed

end Limiter

section Client

def unixSeconds (value : Nat) : Option Nat := if value = 0 then none else some (value * second)

def decodeDecision (r : Reply) : Decision :=
  ⟨r.allowed,r.reason,⟨r.active,r.concurrentSeconds,r.admitted,r.successful,r.effectiveLimit,
    decide (r.effectiveLimit = degradedConcurrency),unixSeconds r.degradeUntil,r.strikeCount⟩,r.notify,r.riskMarked⟩

def heartbeatError (d : Decision) : Option Reason := if d.allowed then none else some d.reason

end Client

inductive Operation
  | acquire (lease : String) (risk : RiskSignals)
  | heartbeat (lease : String)
  | release (lease : String) (completed : Bool)

def Operation.action : Operation → Action
  | .acquire lease risk => .acquire lease risk
  | .heartbeat lease => .heartbeat lease
  | .release lease completed => .release lease completed

structure Counters where
  active : Nat
  concurrentSeconds : Int
  admitted : Nat
  successful : Nat
  effectiveConcurrency : Nat
  exhaustionEvents : Nat
  deriving DecidableEq, Repr

def Snapshot.counters (s : Snapshot) : Counters :=
  ⟨s.active,s.concurrentSeconds,s.admitted,s.successful,s.effectiveConcurrency,s.exhaustionEvents⟩

inductive Answer
  | acquired (allowed : Bool) (reason : Reason) (counters : Counters)
  | beaten (failure : Option Reason)
  | released (counters : Counters)
  deriving DecidableEq, Repr

def scriptAnswer (op : Operation) (r : Reply) : Answer := match op with
  | .acquire _ _ => .acquired (decodeDecision r).allowed (decodeDecision r).reason (decodeDecision r).snapshot.counters
  | .heartbeat _ => .beaten (heartbeatError (decodeDecision r))
  | .release _ _ => .released (decodeDecision r).snapshot.counters

def perform (now : Nat) (m : MemoryAccount) : Operation → Answer × MemoryAccount
  | .acquire lease risk =>
    let (d,m) := acquireWithRisk now m lease risk
    (.acquired d.allowed d.reason d.snapshot.counters,m)
  | .heartbeat lease =>
    let (failure,m) := heartbeat now m lease
    (.beaten failure,m)
  | .release lease completed =>
    let (s,m) := release now m lease completed
    (.released s.counters,m)

end NovaPuraRouter.FairUse.Memory
