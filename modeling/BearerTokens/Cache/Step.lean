import BearerTokens.Cache.Loop
import BearerTokens.Timing

/-! # Steps of a cache with its callers

An action names one thing that some caller, renewal, credential or clock does next.  Actions of
different callers may come in any order; an action that is not possible in a state has no result.
Reading the holding and changing it is one action, as is writing an outcome; what is reported and
counted around them happens in actions of its own.
-/

namespace BearerTokens.Cache

inductive Action where
  /-- A new call, with a runtime around it or not, of a cache that has a runtime or not. -/
  | call (context : Context) (style : Style) (inside hasRuntime : Bool)
  /-- The caller asks to cancel. -/
  | cancel (id : CallId)
  /-- The call decides at a clock reading. -/
  | decide (id : CallId) (now : Instant)
  /-- The call reports its attempt. -/
  | enter (id : CallId)
  | ask (id : CallId)
  | answer (id : CallId) (answer : Answer)
  /-- The credential breaks off the call's request without an answer. -/
  | crash (id : CallId)
  /-- The call sees that it is cancelled. -/
  | withdraw (id : CallId)
  /-- The call writes the outcome of its flight. -/
  | close (id : CallId)
  /-- The call sees the outcome that it waits for. -/
  | resume (id : CallId)
  /-- The call hands a renewal to the runtime that it can reach. -/
  | launch (id : CallId)
  /-- The call can reach no runtime and settles a renewal itself, at a clock reading. -/
  | settle (id : CallId) (now : Instant)
  /-- The call goes on after a renewal that it settled itself. -/
  | finish (id : CallId)
  /-- The caller drops the call where it is suspended. -/
  | drop (id : CallId)
  /-- The renewal reports its attempt. -/
  | begin (id : RenewalId)
  | askRenewal (id : RenewalId)
  | answerRenewal (id : RenewalId) (answer : Answer) (now : Instant)
  /-- The limit of the renewal is reached. -/
  | expire (id : RenewalId) (now : Instant)
  /-- The renewal writes the outcome of its flight. -/
  | closeRenewal (id : RenewalId)
  | countRenewal (id : RenewalId)
  /-- The renewal is dropped where it is suspended, or the credential breaks off its request. -/
  | abandon (id : RenewalId)

abbrev timeoutText : String := "deadline has elapsed"

namespace State

variable (t : Timing) (s : State)

/-! ## Calls -/

def call (context : Context) (style : Style) (inside hasRuntime : Bool) : State :=
  let point : Call.Point := match style.refusal? inside hasRuntime with
    | some fault => .done (.returned (.error (.config fault)))
    | none => .deciding
  { s with calls := s.calls ++ [{ context, style, inside, hasRuntime, point }] }

def cancel (c : CallId) : State :=
  { s with calls := s.calls.modify c fun call => { call with cancelled := true } }

def decideCall (c : CallId) (now : Instant) : Option State :=
  match s.calls[c]? with
  -- a thread looks for its cancellation first; one that comes in between is seen later
  | some { cancelled := true, style := .blocking, point := .deciding, .. } => none
  | some { context, style, point := .deciding, .. } =>
    let (holding, decision) := s.holding.decide s.outcome? s.flights.length context now
    some (({ s with holding }.record [.decided c now decision]).follow style c context decision)
  | _ => none

def enterCall (c : CallId) : Option State :=
  match s.calls[c]? with
  | some { context, point := .opening f, .. } =>
    some (((s.report [.span .synchronous context, .counted .synchronous .attempt]).count
      fun m => { m with acquisitions := m.acquisitions + 1 }).moveCall c (.calling f))
  | _ => none

def askCall (c : CallId) : Option State :=
  match s.calls[c]? with
  -- a call that is cancelled by now never reaches the credential
  | some { context, cancelled := false, point := .calling f, .. } =>
    some ((s.record [.asked (.call c) context]).moveCall c (.asking f))
  | _ => none

def answerCall (c : CallId) (answer : Answer) : Option State :=
  match s.calls[c]? with
  | some { point := .asking f, .. } =>
    let s := s.record [.answered (.call c) answer]
    match answer with
    | .ok token =>
      let s := s.report [.counted .synchronous .success]
      match Pass.ofToken? token t.lead with
      | some pass => some (s.moveCall c (.closing f (.ready pass) (.returned (.ok pass.header))))
      | none => some (s.moveCall c (.closing f .cancelled .crashed))
    | .error fault =>
      let s := (s.report [.counted .synchronous .failure]).count
        fun m => { m with failures := m.failures + 1 }
      some (s.moveCall c (.closing f (.failed fault) (.returned (.error (.credential fault)))))
  | _ => none

def crashCall (c : CallId) : Option State :=
  match s.calls[c]? with
  | some { point := .asking f, .. } => some (s.moveCall c (.closing f .cancelled .crashed))
  | _ => none

def withdrawCall (c : CallId) : Option State :=
  let ending : Exit := .returned (.error .cancelled)
  match s.calls[c]? with
  -- only a thread looks for its cancellation before it decides
  | some { cancelled := true, style := .blocking, point := .deciding, .. } =>
    some (s.moveCall c (.done ending))
  | some { cancelled := true, point := .waiting _, .. } => some (s.moveCall c (.done ending))
  | some { cancelled := true, point := .calling f, .. } =>
    some ((s.report [.counted .synchronous .cancelled]).moveCall c (.closing f .cancelled ending))
  | some { cancelled := true, point := .asking f, .. } =>
    some ((s.report [.counted .synchronous .cancelled]).moveCall c (.closing f .cancelled ending))
  | _ => none

def closeCall (c : CallId) : Option State :=
  match s.calls[c]? with
  | some { point := .closing f outcome exit, .. } =>
    some ((s.writeFlight f outcome).moveCall c (.done exit))
  | _ => none

def resumeCall (c : CallId) : Option State :=
  match s.calls[c]? with
  | some { style, point := .waiting f, .. } =>
    (s.outcome? f).map fun outcome => s.moveCall c (style.resumes outcome)
  | _ => none

/-- The renewal keeps its previous pass, due again a span after now. -/
def keepPrevious (r : RenewalId) (renewal : Renewal) (now : Instant) (delay : Duration)
    (reason : Reason) (error : String) : State :=
  match renewal.previous.deferred? now delay with
  | some pass =>
    ((s.record [.kept r now reason]).report
      [.fellBack reason, .warned renewal.context reason error]).moveRenewal r
        (.closing (.ready pass) .fellBack)
  -- the instant would be outside the calendar
  | none => s.moveRenewal r (.closing .cancelled .abandoned)

def startRenewal (renewal : Renewal) : State :=
  { s with renewals := s.renewals ++ [renewal] }.count fun m => { m with started := m.started + 1 }

def launchCall (c : CallId) : Option State :=
  match s.calls[c]? with
  | some call =>
    match call.point with
    | .launching flight source pass =>
      if call.hosted then
        let renewal : Renewal := { context := call.context, previous := pass, source, flight }
        some ((s.startRenewal renewal).moveCall c (.done (.returned (.ok pass.header))))
      else none
    | _ => none
  | none => none

def settleCall (c : CallId) (now : Instant) : Option State :=
  match s.calls[c]? with
  | some call =>
    match call.point with
    | .launching flight source pass =>
      if call.hosted then none
      else
        let r := s.renewals.length
        let renewal : Renewal := { context := call.context, previous := pass, source, flight }
        let exit : Exit :=
          if (pass.deferred? now t.retry).isSome then .returned (.ok pass.header) else .crashed
        some (((s.startRenewal renewal).keepPrevious r renewal now t.retry .noRuntime
          ConfigFault.noRuntime.message).moveCall c (.settling r exit))
    | _ => none
  | none => none

def finishCall (c : CallId) : Option State :=
  match s.calls[c]? with
  | some { point := .settling r exit, .. } =>
    match s.renewals[r]? with
    | some { point := .settled _, .. } => some (s.moveCall c (.done exit))
    | _ => none
  | _ => none

def dropCall (c : CallId) : Option State :=
  match s.calls[c]? with
  | some { style := .async, point := .deciding, .. } => some (s.moveCall c (.done .dropped))
  | some { style := .async, point := .waiting _, .. } => some (s.moveCall c (.done .dropped))
  | some { style := .async, point := .asking f, .. } =>
    some (s.moveCall c (.closing f .cancelled .dropped))
  | _ => none

/-! ## Renewals -/

def beginRenewal (r : RenewalId) : Option State :=
  match s.renewals[r]? with
  | some { context, point := .queued, .. } =>
    some ((s.report [.span .background context, .counted .background .attempt]).moveRenewal r
      .calling)
  | _ => none

def askRenewal (r : RenewalId) : Option State :=
  match s.renewals[r]? with
  | some { context, point := .calling, .. } =>
    some ((s.record [.asked (.renewal r) context]).moveRenewal r .asking)
  | _ => none

def answerRenewal (r : RenewalId) (answer : Answer) (now : Instant) : Option State :=
  match s.renewals[r]? with
  | some renewal =>
    match renewal.point with
    | .asking =>
      let s := s.record [.answered (.renewal r) answer]
      match answer with
      | .ok token =>
        match Pass.ofToken? token t.lead with
        | some pass => some (s.moveRenewal r (.closing (.ready pass) .succeeded))
        | none => some (s.moveRenewal r (.closing .cancelled .abandoned))
      | .error fault => some (s.keepPrevious r renewal now t.retry .failure fault.message)
    | _ => none
  | none => none

def expireRenewal (r : RenewalId) (now : Instant) : Option State :=
  match s.renewals[r]? with
  | some renewal =>
    match renewal.point with
    | .asking => some (s.keepPrevious r renewal now .zero .timeout timeoutText)
    | _ => none
  | none => none

def closeRenewal (r : RenewalId) : Option State :=
  match s.renewals[r]? with
  | some { flight, point := .closing outcome ending, .. } =>
    some ((s.writeFlight flight outcome).moveRenewal r (.written ending))
  | _ => none

def countEnding (ending : Ending) : State :=
  match ending with
  | .succeeded =>
    (s.count fun m => { m with succeeded := m.succeeded + 1 }).report
      [.counted .background .success]
  | .fellBack =>
    (s.count fun m => { m with fallbacks := m.fallbacks + 1 }).report
      [.counted .background .failure]
  | .abandoned =>
    (s.count fun m => { m with abandoned := m.abandoned + 1 }).report
      [.counted .background .cancelled]

def countRenewal (r : RenewalId) : Option State :=
  match s.renewals[r]? with
  | some { point := .written ending, .. } =>
    some ((s.countEnding ending).moveRenewal r (.settled ending))
  | _ => none

def abandonRenewal (r : RenewalId) : Option State :=
  match s.renewals[r]? with
  | some { point := .queued, .. } => some (s.moveRenewal r (.closing .cancelled .abandoned))
  | some { point := .asking, .. } => some (s.moveRenewal r (.closing .cancelled .abandoned))
  | _ => none

/-! ## All actions -/

/-- The state after an action, if the action is possible. -/
def step : Action → Option State
  | .call context style inside hasRuntime => some (s.call context style inside hasRuntime)
  | .cancel c => some (s.cancel c)
  | .decide c now => s.decideCall c now
  | .enter c => s.enterCall c
  | .ask c => s.askCall c
  | .answer c answer => s.answerCall t c answer
  | .crash c => s.crashCall c
  | .withdraw c => s.withdrawCall c
  | .close c => s.closeCall c
  | .resume c => s.resumeCall c
  | .launch c => s.launchCall c
  | .settle c now => s.settleCall t c now
  | .finish c => s.finishCall c
  | .drop c => s.dropCall c
  | .begin r => s.beginRenewal r
  | .askRenewal r => s.askRenewal r
  | .answerRenewal r answer now => s.answerRenewal t r answer now
  | .expire r now => s.expireRenewal r now
  | .closeRenewal r => s.closeRenewal r
  | .countRenewal r => s.countRenewal r
  | .abandon r => s.abandonRenewal r

def run? (actions : List Action) : Option State := actions.foldlM (step t) s

end State

end BearerTokens.Cache
