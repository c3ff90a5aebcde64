import BearerTokens.Bench.Script
import BearerTokens.Cache.Step
import BearerTokens.Time.Clock

/-! # One thread, two clocks

The bench runs calls and renewals of a cache on one thread.  A task runs until it must wait; tasks
that can go on do so in the order in which they became able to.  The wall clock, which the cache and
the credential read, moves only when told to.  Virtual time, on which waits and limits are timed,
moves from one timer to the next.  Every change of the cache is an action of `State.step`.
-/

namespace BearerTokens

open Cache

namespace Bench

abbrev TaskId := Nat

structure Work where
  entry : ScriptEntry
  /-- Number of the call, from 1. -/
  number : Nat
  /-- When the wait before the answer ends; absent after that. -/
  wakeAt : Option Nat

inductive Progress where
  | waiting
  | answered (answer : Answer)
  /-- It broke off without an answer. -/
  | crashed

structure Task where
  job : Requester
  /-- The runtime is reachable from where the task runs. -/
  inside : Bool := true
  work : Option Work := none
  /-- When a renewal reaches its limit. -/
  limit : Option Nat := none
  ended : Bool := false

inductive Host where
  | absent
  | alive
  | gone
deriving DecidableEq

end Bench

open Bench in
structure Bench where
  timing : Timing
  state : State := {}
  wall : Clock
  /-- Virtual time in milliseconds. -/
  time : Nat := 0
  script : List ScriptEntry := []
  /-- Calls of the credential so far. -/
  asked : Nat := 0
  lifetime : Duration
  own : Host := .alive
  /-- A runtime drives the tasks. -/
  hosted : Bool := true
  tasks : List Task := []
  /-- Tasks that can go on, in the order in which they do. -/
  ready : List TaskId := []
  /-- Tasks that wait on a flight, in the order in which they began to. -/
  waiters : List (FlightId × TaskId) := []
  /-- The task that the thread itself waits for; it runs when no other can. -/
  main : Option TaskId := none
  mainReady : Bool := false

namespace Bench

variable (b : Bench)

def act (a : Action) : Bench :=
  match b.state.step b.timing a with
  | some state => { b with state }
  | none => b

def setTask (t : TaskId) (f : Task → Task) : Bench := { b with tasks := b.tasks.modify t f }

def wake (t : TaskId) : Bench :=
  if b.main = some t then { b with mainReady := true }
  else if b.ready.contains t then b
  else { b with ready := b.ready ++ [t] }

def wakeWaiters (f : FlightId) : Bench :=
  let (woken, others) := b.waiters.partition (·.1 == f)
  (woken.map (·.2)).foldl wake { b with waiters := others }

def retire (t : TaskId) : Bench :=
  let b := b.setTask t fun task => { task with work := none, limit := none, ended := true }
  { b with ready := b.ready.filter (· != t), waiters := b.waiters.filter (·.2 != t) }

def taskOf? (c : CallId) : Option TaskId := b.tasks.findIdx? fun task => task.job == .call c

def cancel (c : CallId) : Bench :=
  let b := b.act (.cancel c)
  match b.taskOf? c, b.state.calls[c]? with
  | some t, some { point := .asking _, .. } => b.wake t
  | some t, some { point := .waiting _, .. } => b.wake t
  | _, _ => b

/-! ## The credential -/

def takeEntry : ScriptEntry × Bench :=
  match b.script with
  | [] => ({}, b)
  | e :: rest => (e, { b with script := rest })

def startWork (t : TaskId) : Bench :=
  let (entry, b) := b.takeEntry
  let wakeAt := if entry.delay = 0 then none else some (b.time + entry.delay)
  let number := b.asked + 1
  { b with asked := number }.setTask t fun task =>
    { task with work := some { entry, number, wakeAt } }

def credential (t : TaskId) : Bench × Progress :=
  match (b.tasks[t]?).bind fun task => task.work.map (task.job, ·) with
  | none => (b, .waiting)
  | some (job, work) =>
    match work.wakeAt with
    | some due =>
      if b.time < due then (b, .waiting)
      else
        let b := b.setTask t fun task => { task with work := some { work with wakeAt := none } }
        finishWork b job work.entry work.number
    | none => finishWork b job work.entry work.number
where
  finishWork (b : Bench) (job : Requester) (entry : ScriptEntry) (n : Nat) : Bench × Progress :=
    if entry.stuck then (b, .waiting)
    else
      let b := match job, entry.cancelsCaller with
        | .call c, true => b.cancel c
        | _, _ => b
      match entry.answer? n b.wall.now b.lifetime with
      | some answer => (b, .answered answer)
      | none => (b, .crashed)

/-! ## Renewals -/

def settleRenewal (r : RenewalId) : Bench :=
  let b := b.act (.closeRenewal r)
  let b := match b.state.renewals[r]? with
    | some renewal => b.wakeWaiters renewal.flight
    | none => b
  b.act (.countRenewal r)

def abandonRenewal (t : TaskId) (r : RenewalId) : Bench :=
  ((b.act (.abandon r)).settleRenewal r).retire t

def pollRenewal (t : TaskId) (r : RenewalId) : Bench :=
  match b.credential t with
  | (b, .answered answer) => ((b.act (.answerRenewal r answer b.wall.now)).settleRenewal r).retire t
  | (b, .crashed) => b.abandonRenewal t r
  | (b, .waiting) =>
    -- the limit counts only when there is no answer yet
    match (b.tasks[t]?).bind (·.limit) with
    | some limit =>
      if limit ≤ b.time then ((b.act (.expire r b.wall.now)).settleRenewal r).retire t else b
    | none => b

def runRenewal (t : TaskId) (r : RenewalId) : Bench :=
  match b.state.renewals[r]? with
  | some { point := .queued, .. } =>
    let b := (b.act (.begin r)).act (.askRenewal r)
    let limit := b.time + b.timing.retry.sizeMillis
    let b := b.setTask t fun task => { task with limit := some limit }
    (b.startWork t).pollRenewal t r
  | some { point := .asking, .. } => b.pollRenewal t r
  | _ => b

/-! ## Calls -/

def settleCall (t : TaskId) (c : CallId) : Bench :=
  match b.state.calls[c]? with
  | some { point := .closing f _ _, .. } => ((b.act (.close c)).wakeWaiters f).retire t
  | _ => b.retire t

def isCancelled (c : CallId) : Bool :=
  match b.state.calls[c]? with
  | some call => call.cancelled
  | none => false

def pollAnswer (t : TaskId) (c : CallId) : Bench :=
  -- a cancellation is looked for before the answer
  if b.isCancelled c then (b.act (.withdraw c)).settleCall t c
  else
    match b.credential t with
    | (b, .answered answer) => (b.act (.answer c answer)).settleCall t c
    | (b, .crashed) => (b.act (.crash c)).settleCall t c
    | (b, .waiting) => b

def startAnswer (t : TaskId) (c : CallId) : Bench :=
  let b := b.act (.enter c)
  if b.isCancelled c then (b.act (.withdraw c)).settleCall t c
  else ((b.act (.ask c)).startWork t).pollAnswer t c

/-- Where a renewal would run: a runtime around the caller, else the one the cache was given. -/
def hostFor (t : TaskId) : Host :=
  match b.tasks[t]? with
  | some { inside := true, .. } => if b.hosted then .alive else b.own
  | _ => b.own

/-- A call starts the renewal that it owes, which no runtime, a runtime, or a runtime that is gone
takes over. -/
def startRenewal (t : TaskId) (c : CallId) : Bench :=
  let r := b.state.renewals.length
  match b.hostFor t with
  | .absent => (((b.act (.settle c b.wall.now)).settleRenewal r).act (.finish c)).retire t
  | .alive =>
    let b := b.act (.launch c)
    let new := b.tasks.length
    let task : Task := { job := .renewal r }
    let b := { b with tasks := b.tasks ++ [task] }
    (b.wake new).retire t
  | .gone => (((b.act (.launch c)).act (.abandon r)).settleRenewal r).retire t

def runDecision (t : TaskId) (c : CallId) : Bench :=
  let blockingStop := match b.state.calls[c]? with
    | some { style := .blocking, cancelled := true, .. } => true
    | _ => false
  if blockingStop then (b.act (.withdraw c)).retire t
  else
    let b := b.act (.decide c b.wall.now)
    match b.state.calls[c]? with
    | some { point := .opening _, .. } => b.startAnswer t c
    | some { point := .launching _ _ _, .. } => b.startRenewal t c
    | some { point := .waiting f, .. } =>
      if b.isCancelled c then (b.act (.withdraw c)).retire t
      else { b with waiters := b.waiters ++ [(f, t)] }
    | _ => b.retire t

def pollFlight (t : TaskId) (c : CallId) : Bench :=
  -- a cancellation is looked for before the outcome
  if b.isCancelled c then (b.act (.withdraw c)).retire t
  else
    let b := b.act (.resume c)
    match b.state.calls[c]? with
    | some { point := .deciding, .. } => b.runDecision t c
    | some { point := .done _, .. } => b.retire t
    | _ => b

def runCall (t : TaskId) (c : CallId) : Bench :=
  match b.state.calls[c]? with
  | some { point := .deciding, .. } => b.runDecision t c
  | some { point := .asking _, .. } => b.pollAnswer t c
  | some { point := .waiting _, .. } => b.pollFlight t c
  | _ => b.retire t

def dropCall (t : TaskId) (c : CallId) : Bench := (b.act (.drop c)).settleCall t c

/-! ## The thread -/

def runTask (t : TaskId) : Bench :=
  match b.tasks[t]? with
  | some { ended := false, job := .call c, .. } => b.runCall t c
  | some { ended := false, job := .renewal r, .. } => b.runRenewal t r
  | _ => b

/-- More rounds than the tasks can take. -/
def rounds : Nat :=
  -- a task runs again only after a flight on which it waited has an outcome, its timer has run out,
  -- or it is cancelled
  8 * (b.tasks.length + 2) * (b.tasks.length + 2)

def drainFor : Nat → Bench → Bench
  | 0, b => b
  | n + 1, b =>
    match b.ready with
    | [] => b
    | t :: rest => drainFor n ({ b with ready := rest }.runTask t)

def drain : Bench := drainFor b.rounds b

def minimum : List Nat → Option Nat
  | [] => none
  | n :: rest =>
    match minimum rest with
    | none => some n
    | some m => some (min n m)

def timersOf (task : Task) : List Nat :=
  ((task.work.bind (·.wakeAt)).toList) ++ task.limit.toList

def nextTimer : Option Nat := minimum ((b.tasks.flatMap timersOf).filter (b.time < ·))

def moveTo (instant : Nat) : Bench :=
  let due := (List.range b.tasks.length).filter fun t =>
    match b.tasks[t]? with
    | some task => (timersOf task).contains instant
    | none => false
  due.foldl wake { b with time := instant }

def passFor : Nat → Nat → Bench → Bench
  | 0, target, b => { b with time := target }
  | n + 1, target, b =>
    match b.nextTimer with
    | some due =>
      if due ≤ target then passFor n target (b.moveTo due).drain
      else { b with time := target }
    | none => { b with time := target }

def sleep (ms : Nat) : Bench := passFor b.rounds (b.time + ms) b

/-- Runs the main task whenever it can go on; otherwise the other tasks, and then time passes. -/
def runMainFor (t : TaskId) : Nat → Bench → Bench
  | 0, b => b
  | n + 1, b =>
    match b.tasks[t]? with
    | some { ended := false, .. } =>
      if b.mainReady then runMainFor t n ({ b with mainReady := false }.runTask t)
      else
        let b := b.drain
        if b.mainReady then runMainFor t n b
        else
          match b.nextTimer with
          | some due => runMainFor t n (b.moveTo due)
          | none => b
    | _ => b

def addCall (context : Context) (style : Style) (cancelled inside : Bool) :
    Bench × TaskId × CallId :=
  let c := b.state.calls.length
  let t := b.tasks.length
  let b := b.act (.call context style inside (b.own ≠ .absent))
  let b := if cancelled then b.act (.cancel c) else b
  let task : Task := { job := .call c, inside }
  ({ b with tasks := b.tasks ++ [task] }, t, c)

def exit? (c : CallId) : Option Exit :=
  match b.state.calls[c]? with
  | some { point := .done exit, .. } => some exit
  | _ => none

def runCallNow (context : Context) (style : Style) (cancelled inside : Bool) :
    Bench × Option Exit :=
  let (b, t, c) := b.addCall context style cancelled inside
  let b := runMainFor t b.rounds { b with main := some t, mainReady := true }
  let b := { b with main := none, mainReady := false }
  (b, b.exit? c)

def spawn (context : Context) (style : Style) (cancelled : Bool) : Bench × CallId :=
  let (b, t, c) := b.addCall context style cancelled (style = .async)
  (b.wake t, c)

def isHosted (task : Task) : Bool :=
  match task.job with
  | .renewal _ => true
  | .call c =>
    match b.state.calls[c]? with
    | some { style := .async, .. } => true
    | _ => false

/-- The runtime goes: its tasks are dropped in the order in which they came. -/
def dropRuntime : Bench :=
  let b := (List.range b.tasks.length).foldl (fun b t =>
    match b.tasks[t]? with
    | some task =>
      if task.ended || !b.isHosted task then b
      else
        match task.job with
        | .call c => b.dropCall t c
        | .renewal r => b.abandonRenewal t r
    | none => b) b
  { b with hosted := false, own := if b.own = .absent then .absent else .gone }

def newRuntime : Bench := { b.dropRuntime with hosted := true }

end Bench

end BearerTokens
