import BearerTokens.Cache.State

/-! # The loops of tasks and threads

A call decides, goes on as it is told, and decides again when the flight on which it has waited was
given up.  A task and a thread each have a loop for this.  A task may be anywhere: the runtime around
it takes over its renewal, or else the cache's, or none.  A thread is let in only outside a runtime and
only where the cache has one, which takes over its renewal.  Before each decision a thread looks for
its cancellation, which a task does not.
-/

namespace BearerTokens.Cache

/-! ## Tasks -/

namespace State

def followTask (s : State) (c : CallId) (context : Context) : Decision → State
  | .serve _ pass =>
    (s.count fun m => { m with hits := m.hits + 1 }).moveCall c
      (.done (.returned (.ok pass.header)))
  | .renew f source pass =>
    ((s.openFlight .background context).count fun m => { m with hits := m.hits + 1 }).moveCall c
      (.launching f source pass)
  | .acquire f => (s.openFlight .synchronous context).moveCall c (.opening f)
  | .wait f => (s.count fun m => { m with waits := m.waits + 1 }).moveCall c (.waiting f)

end State

namespace Call

def taskResumes : Outcome → Point
  | .cancelled => .deciding
  | outcome => .done (.returned outcome.header)

def taskHosted (call : Call) : Bool := call.inside || call.hasRuntime

end Call

/-! ## Threads -/

def threadRefusal? (inside hasRuntime : Bool) : Option ConfigFault :=
  if inside then some .blockingInside else if hasRuntime then none else some .noRuntime

namespace State

def followThread (s : State) (c : CallId) (context : Context) : Decision → State
  | .serve _ pass =>
    (s.count fun m => { m with hits := m.hits + 1 }).moveCall c
      (.done (.returned (.ok pass.header)))
  | .renew f source pass =>
    ((s.openFlight .background context).count fun m => { m with hits := m.hits + 1 }).moveCall c
      (.launching f source pass)
  | .acquire f => (s.openFlight .synchronous context).moveCall c (.opening f)
  | .wait f => (s.count fun m => { m with waits := m.waits + 1 }).moveCall c (.waiting f)

end State

namespace Call

def threadResumes : Outcome → Point
  | .cancelled => .deciding
  | outcome => .done (.returned outcome.header)

def threadHosted (call : Call) : Bool := call.hasRuntime

end Call

/-! ## Either -/

def Style.refusal? (inside hasRuntime : Bool) : Style → Option ConfigFault
  | .async => none
  | .blocking => threadRefusal? inside hasRuntime

def State.follow (s : State) (style : Style) (c : CallId) (context : Context) (d : Decision) :
    State :=
  match style with
  | .async => s.followTask c context d
  | .blocking => s.followThread c context d

def Style.resumes : Style → Outcome → Call.Point
  | .async => Call.taskResumes
  | .blocking => Call.threadResumes

/-- Either loop decides again after a flight that was given up, and shares every other outcome. -/
theorem Style.resumes_eq (style : Style) (o : Outcome) : style.resumes o =
    if o = .cancelled then .deciding else .done (.returned o.header) := by
  cases style <;> cases o <;> simp [resumes, Call.taskResumes, Call.threadResumes]

/-- A runtime takes over the renewal that the call starts. -/
def Call.hosted (call : Call) : Bool :=
  match call.style with
  | .async => call.taskHosted
  | .blocking => call.threadHosted

end BearerTokens.Cache
