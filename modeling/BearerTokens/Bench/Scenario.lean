import BearerTokens.Bench.Executor
import BearerTokens.Cache.Text

/-! # Scenarios for a cache

A scenario is a row of steps on the bench: calls that run at once or as tasks, cancellations, moves
of the two clocks, and the coming and going of the runtime.  After each step the tasks run until
only time could let one go on, and what can be seen is noted.
-/

namespace BearerTokens.Bench

open Cache

inductive Step where
  /-- A call that the thread waits for, on or off the runtime. -/
  | get (context : Context) (cancelled outside : Bool)
  /-- A call as a task with a name. -/
  | start (name : String) (context : Context) (cancelled : Bool)
  | cancel (names : List String)
  | abort (name : String)
  | sleep (ms : Nat)
  | advance (d : Duration)
  | setClock (now : Instant)
  | getBlocking (context : Context) (cancelled inside : Bool)
  | startBlocking (name : String) (context : Context) (cancelled : Bool)
  | push (entry : ScriptEntry)
  | dropRuntime
  | newRuntime
  | describe

inductive StepResult where
  | nothing
  | exit (exit : Exit)
  | disclosure (d : Disclosure)

structure Observation where
  result : StepResult
  /-- Named calls that are reported to have ended. -/
  done : List (String × Exit)
  /-- Contexts with which the credential was called. -/
  acquired : List Context
  metrics : Metrics
  context : Option Context
  time : Nat
  log : List Entry

inductive ScenarioFault where
  /-- The wall clock left the calendar, or a call broke that no runtime drove. -/
  | crashed
  /-- A task cannot be started without a runtime. -/
  | noRuntime

structure Scenario where
  bench : Bench
  /-- Latest call of each name first. -/
  names : List (String × CallId) := []
  /-- Calls whose end has not been reported. -/
  unreported : List (String × CallId) := []

namespace Scenario

variable (s : Scenario)

def spawn (name : String) (context : Context) (style : Style) (cancelled : Bool) : Scenario :=
  let (bench, c) := s.bench.spawn context style cancelled
  { bench, names := (name, c) :: s.names, unreported := s.unreported ++ [(name, c)] }

def abort (name : String) : Scenario :=
  match s.names.lookup name with
  | none => s
  | some c =>
    match s.bench.taskOf? c with
    | none => s
    | some t =>
      match s.bench.tasks[t]? with
      | some task =>
        if task.ended || !s.bench.isHosted task then s
        else { s with bench := s.bench.dropCall t c }
      | none => s

def callNow (context : Context) (style : Style) (cancelled inside : Bool) :
    Scenario × StepResult :=
  let (bench, exit) := s.bench.runCallNow context style cancelled inside
  ({ s with bench }, (exit.map .exit).getD .nothing)

/-- Runs a task on or off the runtime.  Off it the thread itself drives the task, and what breaks the
task breaks the thread. -/
def getNow (context : Context) (cancelled inside : Bool) :
    Except ScenarioFault (Scenario × StepResult) :=
  match s.callNow context .async cancelled inside with
  | (s, .exit .crashed) => if inside then .ok (s, .exit .crashed) else .error .crashed
  | (s, result) => .ok (s, result)

def setWall (clock : Option Clock) : Except ScenarioFault (Scenario × StepResult) :=
  match clock with
  | some wall => .ok ({ s with bench := { s.bench with wall } }, .nothing)
  | none => .error .crashed

def perform : Step → Except ScenarioFault (Scenario × StepResult)
  | .get context cancelled outside => s.getNow context cancelled (!outside && s.bench.hosted)
  | .getBlocking context cancelled inside => .ok (s.callNow context .blocking cancelled inside)
  | .start name context cancelled =>
    if s.bench.hosted then .ok (s.spawn name context .async cancelled, .nothing)
    else .error .noRuntime
  | .startBlocking name context cancelled =>
    .ok (s.spawn name context .blocking cancelled, .nothing)
  | .cancel names =>
    let calls := names.filterMap fun name => s.names.lookup name
    .ok ({ s with bench := calls.foldl Bench.cancel s.bench }, .nothing)
  | .abort name => .ok (s.abort name, .nothing)
  | .sleep ms => .ok ({ s with bench := s.bench.sleep ms }, .nothing)
  | .advance d => s.setWall (s.bench.wall.advance? d)
  | .setClock now => s.setWall (some (s.bench.wall.set now))
  | .push entry =>
    .ok ({ s with bench := { s.bench with script := s.bench.script ++ [entry] } }, .nothing)
  | .dropRuntime => .ok ({ s with bench := s.bench.dropRuntime }, .nothing)
  | .newRuntime => .ok ({ s with bench := s.bench.newRuntime }, .nothing)
  | .describe => .ok (s, .disclosure (.of s.bench.state.text))

/-- A call of this name may be reported: it runs on the runtime, or its end was asked for. -/
def isReported (join : List String) (name : String) (c : CallId) : Bool :=
  join.contains name ||
    match s.bench.state.calls[c]? with
    | some { style := .async, .. } => true
    | _ => false

def askedContexts (history : List Happening) : List Context :=
  history.filterMap fun
    | .asked _ context => some context
    | _ => none

def observe (step : Step) (join : List String) : Except ScenarioFault (Scenario × Observation) := do
  let (after, result) ← s.perform step
  let after := { after with bench := after.bench.drain }
  let (ended, unreported) := after.unreported.partition fun (name, c) =>
    (after.bench.exit? c).isSome && after.isReported join name c
  let state := after.bench.state
  let news : State := { state with history := state.history.drop s.bench.state.history.length }
  .ok ({ after with unreported },
    { result
      done := ended.filterMap fun (name, c) => (after.bench.exit? c).map (name, ·)
      acquired := askedContexts news.history
      metrics := state.metrics
      context := state.holding.context
      time := after.bench.time
      log := news.log })

def observeAll : Scenario → List (Step × List String) → Except ScenarioFault (List Observation)
  | _, [] => .ok []
  | s, (step, join) :: rest => do
    let (s, seen) ← s.observe step join
    let others ← observeAll s rest
    .ok (seen :: others)

end Scenario

end BearerTokens.Bench
