import BearerTokens.Cache.Step

/-! # Runs with other texts

Nothing that a cache does depends on what a token reads, and on a context nothing but which others it is
equivalent to.  If every secret is replaced by another, every header accordingly, and every context so
that the same contexts stay equivalent, then each step of the cache is replaced by a step, and so is
each run.
-/

namespace BearerTokens

/-- Other contexts for contexts, under which the same contexts are equivalent. -/
structure Renaming where
  context : Context → Context
  equivalent (a b : Context) : (context a).Equivalent (context b) ↔ a.Equivalent b

structure Rewording extends Renaming where
  claims_only (c : Context) : context c = { c with claims := (context c).claims }

structure Recast extends Renaming where
  secret : String → String
  header : String → String
  header_secret (v : String) : header (Secret.header ⟨v⟩) = Secret.header ⟨secret v⟩

variable (κ : Recast)

/-! ## Data -/

def Token.recast (token : Token) : Token := { token with secret := ⟨κ.secret token.secret.value⟩ }

def Pass.recast (p : Pass) : Pass := { p with header := κ.header p.header }

@[simp]
def Outcome.recast : Outcome → Outcome
  | .ready pass => .ready (pass.recast κ)
  | .failed fault => .failed fault
  | .cancelled => .cancelled

def Answer.recast (answer : Answer) : Answer := answer.map (Token.recast κ)

def Flight.recast (f : Flight) : Flight :=
  { f with context := κ.context f.context, outcome := f.outcome.map (Outcome.recast κ) }

@[simp]
def Entry.recast : Entry → Entry
  | .span mode context => .span mode (κ.context context)
  | .counted mode milestone => .counted mode milestone
  | .fellBack reason => .fellBack reason
  | .warned context reason error => .warned (κ.context context) reason error
  | .answering context => .answering (κ.context context)

namespace Cache

def Holding.recast (h : Holding) : Holding := { h with context := h.context.map κ.context }

@[simp]
def Decision.recast : Decision → Decision
  | .acquire f => .acquire f
  | .wait f => .wait f
  | .renew f source pass => .renew f source (pass.recast κ)
  | .serve source pass => .serve source (pass.recast κ)

@[simp]
def Exit.recast : Exit → Exit
  | .returned answer => .returned (answer.map κ.header)
  | .dropped => .dropped
  | .crashed => .crashed

@[simp]
def Call.Point.recast : Call.Point → Call.Point
  | .deciding => .deciding
  | .opening f => .opening f
  | .calling f => .calling f
  | .asking f => .asking f
  | .closing f outcome exit => .closing f (outcome.recast κ) (exit.recast κ)
  | .waiting f => .waiting f
  | .launching f source pass => .launching f source (pass.recast κ)
  | .settling r exit => .settling r (exit.recast κ)
  | .done exit => .done (exit.recast κ)

def Call.recast (call : Call) : Call :=
  { call with context := κ.context call.context, point := call.point.recast κ }

@[simp]
def Renewal.Point.recast : Renewal.Point → Renewal.Point
  | .queued => .queued
  | .calling => .calling
  | .asking => .asking
  | .closing outcome ending => .closing (outcome.recast κ) ending
  | .written ending => .written ending
  | .settled ending => .settled ending

def Renewal.recast (renewal : Renewal) : Renewal :=
  { renewal with context := κ.context renewal.context, previous := renewal.previous.recast κ,
                 point := renewal.point.recast κ }

@[simp]
def Happening.recast : Happening → Happening
  | .reported entry => .reported (entry.recast κ)
  | .decided c now d => .decided c now (d.recast κ)
  | .asked requester context => .asked requester (κ.context context)
  | .answered requester answer => .answered requester (Answer.recast κ answer)
  | .kept r now reason => .kept r now reason
  | .wrote f outcome => .wrote f (outcome.recast κ)

def State.recast (s : State) : State :=
  { holding := s.holding.recast κ
    flights := s.flights.map (Flight.recast κ)
    calls := s.calls.map (Call.recast κ)
    renewals := s.renewals.map (Renewal.recast κ)
    metrics := s.metrics
    history := s.history.map (Happening.recast κ) }

def Action.recast : Action → Action
  | .call context style inside hasRuntime => .call (κ.context context) style inside hasRuntime
  | .answer c told => .answer c (Answer.recast κ told)
  | .answerRenewal r told now => .answerRenewal r (Answer.recast κ told) now
  | a => a

end Cache

/-! ## Passes -/

variable {κ}

theorem Pass.recast_expiredAt (p : Pass) (now : Instant) :
    (p.recast κ).expiredAt now = p.expiredAt now := rfl

theorem Pass.recast_dueAt (p : Pass) (now : Instant) : (p.recast κ).dueAt now = p.dueAt now := rfl

theorem Pass.recast_ofToken? (token : Token) (lead : Duration) :
    Pass.ofToken? (token.recast κ) lead = (Pass.ofToken? token lead).map (Pass.recast κ) := by
  have hheader : (token.recast κ).secret.header = κ.header token.secret.header :=
    (κ.header_secret token.secret.value).symm
  unfold Pass.ofToken?
  rw [hheader, Option.map_map]
  rfl

theorem Pass.recast_deferred? (p : Pass) (now : Instant) (delay : Duration) :
    (p.recast κ).deferred? now delay = (p.deferred? now delay).map (Pass.recast κ) := by
  unfold Pass.deferred?
  rw [Option.map_map]
  rfl

theorem Flight.recast_write (f : Flight) (o : Outcome) :
    (f.write o).recast κ = (f.recast κ).write (o.recast κ) := by
  cases ho : f.outcome <;> simp [write, recast, ho]

namespace Cache

/-! ## Decisions -/

namespace Holding

variable (outcome? : FlightId → Option Outcome) (now : Instant) (h : Holding)

theorem recast_promote :
    (h.recast κ).promote (fun f => (outcome? f).map (Outcome.recast κ)) now =
      (h.promote outcome? now).recast κ := by
  unfold promote
  cases hs : h.standby with
  | none => simp [recast, hs]
  | some f =>
    cases ho : outcome? f with
    | none => simp [recast, hs, ho]
    | some o =>
      cases o with
      | ready pass =>
        by_cases he : pass.expiredAt now <;>
          simp [recast, hs, ho, Pass.recast_expiredAt, he]
      | failed fault => simp [recast, hs, ho]
      | cancelled => simp [recast, hs, ho]

theorem recast_usable :
    (h.recast κ).usable (fun f => (outcome? f).map (Outcome.recast κ)) now =
      (h.usable outcome? now).map fun found => (found.1, found.2.recast κ) := by
  unfold usable
  cases hc : h.current with
  | none => simp [recast, hc]
  | some f =>
    cases ho : outcome? f with
    | none => simp [recast, hc, ho]
    | some o =>
      cases o with
      | ready pass =>
        by_cases he : pass.expiredAt now <;>
          simp [recast, hc, ho, Pass.recast_expiredAt, he]
      | failed fault => simp [recast, hc, ho]
      | cancelled => simp [recast, hc, ho]

theorem recast_decideSettled (next : FlightId) :
    (h.recast κ).decideSettled (fun f => (outcome? f).map (Outcome.recast κ)) next now =
      ((h.decideSettled outcome? next now).1.recast κ,
        (h.decideSettled outcome? next now).2.recast κ) := by
  simp only [decideSettled, recast_promote, recast_usable]
  cases hu : (h.promote outcome? now).usable outcome? now with
  | none => rfl
  | some found =>
    obtain ⟨source, pass⟩ := found
    simp only [Option.map_some, Pass.recast_dueAt]
    have hstandby : ((h.promote outcome? now).recast κ).standby =
      (h.promote outcome? now).standby := rfl
    rw [hstandby]
    by_cases hd : (pass.dueAt now && (h.promote outcome? now).standby.isNone) = true
    · simp only [hd, ↓reduceIte]
      rfl
    · simp only [hd]
      rfl

theorem recast_decide (next : FlightId) (context : Context) :
    (h.recast κ).decide (fun f => (outcome? f).map (Outcome.recast κ)) next (κ.context context) now =
      ((h.decide outcome? next context now).1.recast κ,
        (h.decide outcome? next context now).2.recast κ) := by
  unfold decide
  cases hc : h.context with
  | none => simp [recast, hc, restart]
  | some stored =>
    cases hf : h.current with
    | none => simp [recast, hc, hf, restart]
    | some f =>
      have hc' : (h.recast κ).context = some (κ.context stored) := by simp [recast, hc]
      have hf' : (h.recast κ).current = some f := hf
      simp only [hc', hf', κ.equivalent]
      by_cases he : stored.Equivalent context
      · simp only [he, ↓reduceIte]
        cases ho : outcome? f with
        | none => rfl
        | some o =>
          simp only [Option.map_some]
          exact recast_decideSettled outcome? now h next
      · simp only [he, ↓reduceIte]
        rfl

end Holding

/-! ## States -/

theorem map_modify {α β : Type} {g : α → β} {f : α → α} {f' : β → β} (l : List α) (i : Nat)
    (h : ∀ a, g (f a) = f' (g a)) : (l.modify i f).map g = (l.map g).modify i f' := by
  refine List.ext_getElem? fun j => ?_
  by_cases hj : i = j
  · subst hj
    cases hl : l[i]? <;> simp [hl, h]
  · simp [List.getElem?_modify_ne _ _ hj]

namespace State

variable (s : State)

@[simp] theorem recast_holding : (s.recast κ).holding = s.holding.recast κ := rfl

@[simp] theorem recast_metrics : (s.recast κ).metrics = s.metrics := rfl

@[simp] theorem recast_length : (s.recast κ).flights.length = s.flights.length := List.length_map _

@[simp] theorem recast_call? (c : CallId) :
    (s.recast κ).calls[c]? = (s.calls[c]?).map (Call.recast κ) := List.getElem?_map ..

@[simp] theorem recast_renewal? (r : RenewalId) :
    (s.recast κ).renewals[r]? = (s.renewals[r]?).map (Renewal.recast κ) := List.getElem?_map ..

theorem recast_outcome? :
    (s.recast κ).outcome? = fun f => (s.outcome? f).map (Outcome.recast κ) := by
  funext f
  cases hf : s.flights[f]? <;> simp [outcome?, recast, hf, Flight.recast]

@[simp] theorem recast_record (lines : List Happening) :
    (s.record lines).recast κ = (s.recast κ).record (lines.map (Happening.recast κ)) := by
  simp [record, recast]

@[simp] theorem recast_report (entries : List Entry) :
    (s.report entries).recast κ = (s.recast κ).report (entries.map (Entry.recast κ)) := by
  simp only [report, recast_record, List.map_map]
  rfl

@[simp] theorem recast_count (tally : Metrics → Metrics) :
    (s.count tally).recast κ = (s.recast κ).count tally := rfl

@[simp] theorem recast_moveCall (c : CallId) (p : Call.Point) :
    (s.moveCall c p).recast κ = (s.recast κ).moveCall c (p.recast κ) := by
  have hcalls : (s.calls.modify c fun call => { call with point := p }).map (Call.recast κ) =
      (s.calls.map (Call.recast κ)).modify c fun call => { call with point := p.recast κ } :=
    map_modify _ _ (by intro _; rfl)
  simp only [moveCall, recast, hcalls]

@[simp] theorem recast_moveRenewal (r : RenewalId) (p : Renewal.Point) :
    (s.moveRenewal r p).recast κ = (s.recast κ).moveRenewal r (p.recast κ) := by
  have hrenewals :
      (s.renewals.modify r fun renewal => { renewal with point := p }).map (Renewal.recast κ) =
        (s.renewals.map (Renewal.recast κ)).modify r
          fun renewal => { renewal with point := p.recast κ } := map_modify _ _ (by intro _; rfl)
  simp only [moveRenewal, recast, hrenewals]

@[simp] theorem recast_openFlight (mode : Mode) (context : Context) :
    (s.openFlight mode context).recast κ = (s.recast κ).openFlight mode (κ.context context) := by
  simp [openFlight, recast, Flight.recast]

@[simp] theorem recast_writeFlight (f : FlightId) (o : Outcome) :
    (s.writeFlight f o).recast κ = (s.recast κ).writeFlight f (o.recast κ) := by
  have hflights : (s.flights.modify f (·.write o)).map (Flight.recast κ) =
      (s.flights.map (Flight.recast κ)).modify f (·.write (o.recast κ)) :=
    map_modify _ _ fun flight => flight.recast_write o
  simp only [writeFlight, record, recast, List.map_append, hflights]
  rfl

@[simp] theorem recast_countEnding (ending : Ending) :
    (s.countEnding ending).recast κ = (s.recast κ).countEnding ending := by
  cases ending <;> simp [countEnding]

theorem recast_held (holding : Holding) :
    { s with holding }.recast κ = { s.recast κ with holding := holding.recast κ } := rfl

@[simp] theorem recast_startRenewal (renewal : Renewal) :
    (s.startRenewal renewal).recast κ = (s.recast κ).startRenewal (renewal.recast κ) := by
  simp [startRenewal, recast, count]

/-! ## Steps -/

theorem recast_follow (style : Style) (c : CallId) (context : Context) (d : Decision) :
    (s.follow style c context d).recast κ =
      (s.recast κ).follow style c (κ.context context) (d.recast κ) := by
  cases d with
  | acquire | wait | renew => cases style <;> simp [follow, followTask, followThread]
  | serve => cases style <;> simp [follow, followTask, followThread, Pass.recast, Except.map]

theorem recast_resumes (style : Style) (o : Outcome) :
    style.resumes (o.recast κ) = (style.resumes o).recast κ := by
  cases o <;> simp [Style.resumes_eq, Outcome.header, Pass.recast, Except.map]

theorem recast_keepPrevious (r : RenewalId) (renewal : Renewal) (now : Instant) (delay : Duration)
    (reason : Reason) (error : String) :
    (s.keepPrevious r renewal now delay reason error).recast κ =
      (s.recast κ).keepPrevious r (renewal.recast κ) now delay reason error := by
  have hprevious : (renewal.recast κ).previous = renewal.previous.recast κ := rfl
  unfold keepPrevious
  rw [hprevious, Pass.recast_deferred?]
  cases renewal.previous.deferred? now delay with
  | none => simp
  | some pass => simp [Renewal.recast]

variable {s} {t : Timing}

theorem recast_decideCall (c : CallId) (now : Instant) :
    (s.recast κ).decideCall c now = (s.decideCall c now).map (State.recast κ) := by
  unfold decideCall
  cases hc : s.calls[c]? with
  | none => simp [hc]
  | some call =>
    obtain ⟨context, style, inside, hasRuntime, cancelled, point⟩ := call
    cases point with
    | deciding =>
      have hdecide := s.holding.recast_decide (κ := κ) s.outcome? now s.flights.length context
      cases style <;> cases cancelled <;>
        simp [hc, Call.recast, recast_outcome?, hdecide, recast_follow, recast_held]
    | _ => simp [hc, Call.recast]

theorem recast_enterCall (c : CallId) :
    (s.recast κ).enterCall c = (s.enterCall c).map (State.recast κ) := by
  unfold enterCall
  cases hc : s.calls[c]? with
  | none => simp [hc]
  | some call =>
    obtain ⟨context, style, inside, hasRuntime, cancelled, point⟩ := call
    cases point <;> simp [hc, Call.recast]

theorem recast_askCall (c : CallId) :
    (s.recast κ).askCall c = (s.askCall c).map (State.recast κ) := by
  unfold askCall
  cases hc : s.calls[c]? with
  | none => simp [hc]
  | some call =>
    obtain ⟨context, style, inside, hasRuntime, cancelled, point⟩ := call
    cases cancelled <;> cases point <;> simp [hc, Call.recast]

theorem recast_answerCall (c : CallId) (answer : Answer) :
    (s.recast κ).answerCall t c (Answer.recast κ answer) =
      (s.answerCall t c answer).map (State.recast κ) := by
  unfold answerCall
  cases hc : s.calls[c]? with
  | none => simp [hc]
  | some call =>
    obtain ⟨context, style, inside, hasRuntime, cancelled, point⟩ := call
    cases point with
    | asking f =>
      cases answer with
      | error fault => simp [hc, Call.recast, Answer.recast, Except.map]
      | ok token =>
        cases hp : Pass.ofToken? token t.lead <;>
          simp [hc, Call.recast, Answer.recast, Except.map, Pass.recast_ofToken?, hp, Pass.recast]
    | _ => simp [hc, Call.recast]

theorem recast_crashCall (c : CallId) :
    (s.recast κ).crashCall c = (s.crashCall c).map (State.recast κ) := by
  unfold crashCall
  cases hc : s.calls[c]? with
  | none => simp [hc]
  | some call =>
    obtain ⟨context, style, inside, hasRuntime, cancelled, point⟩ := call
    cases point <;> simp [hc, Call.recast]

theorem recast_withdrawCall (c : CallId) :
    (s.recast κ).withdrawCall c = (s.withdrawCall c).map (State.recast κ) := by
  unfold withdrawCall
  cases hc : s.calls[c]? with
  | none => simp [hc]
  | some call =>
    obtain ⟨context, style, inside, hasRuntime, cancelled, point⟩ := call
    cases style <;> cases cancelled <;> cases point <;> simp [hc, Call.recast, Except.map]

theorem recast_closeCall (c : CallId) :
    (s.recast κ).closeCall c = (s.closeCall c).map (State.recast κ) := by
  unfold closeCall
  cases hc : s.calls[c]? with
  | none => simp [hc]
  | some call =>
    obtain ⟨context, style, inside, hasRuntime, cancelled, point⟩ := call
    cases point <;> simp [hc, Call.recast]

theorem recast_resumeCall (c : CallId) :
    (s.recast κ).resumeCall c = (s.resumeCall c).map (State.recast κ) := by
  unfold resumeCall
  cases hc : s.calls[c]? with
  | none => simp [hc]
  | some call =>
    obtain ⟨context, style, inside, hasRuntime, cancelled, point⟩ := call
    cases point with
    | waiting f =>
      simp only [recast_call?, hc, Option.map_some, Call.recast, Call.Point.recast, recast_outcome?]
      cases s.outcome? f with
      | none => rfl
      | some o => simp only [Option.map_some, recast_moveCall, recast_resumes]
    | _ => simp [hc, Call.recast]

theorem recast_hosted (call : Call) : (call.recast κ).hosted = call.hosted := rfl

theorem recast_launchCall (c : CallId) :
    (s.recast κ).launchCall c = (s.launchCall c).map (State.recast κ) := by
  unfold launchCall
  cases hc : s.calls[c]? with
  | none => simp [hc]
  | some call =>
    have hpoint : (call.recast κ).point = call.point.recast κ := rfl
    simp only [recast_call?, hc, Option.map_some, hpoint, recast_hosted]
    cases hp : call.point with
    | launching f source pass =>
      rcases Bool.eq_false_or_eq_true call.hosted with hh | hh
      · simp only [Call.Point.recast, hh, ↓reduceIte, Option.map_some, recast_moveCall,
          recast_startRenewal]
        rfl
      · simp only [Call.Point.recast, hh, Bool.false_eq_true, ↓reduceIte, Option.map_none]
    | _ => rfl

theorem recast_settleCall (c : CallId) (now : Instant) :
    (s.recast κ).settleCall t c now = (s.settleCall t c now).map (State.recast κ) := by
  unfold settleCall
  cases hc : s.calls[c]? with
  | none => simp [hc]
  | some call =>
    have hpoint : (call.recast κ).point = call.point.recast κ := rfl
    simp only [recast_call?, hc, Option.map_some, hpoint, recast_hosted]
    cases hp : call.point with
    | launching f source pass =>
      rcases Bool.eq_false_or_eq_true call.hosted with hh | hh
      · simp only [Call.Point.recast, hh, ↓reduceIte, Option.map_none]
      · -- whether the call crashes depends on the calendar alone
        have hdefer : ((pass.recast κ).deferred? now t.retry).isSome =
            (pass.deferred? now t.retry).isSome := by simp [Pass.recast_deferred?]
        have hlength : (s.recast κ).renewals.length = s.renewals.length := List.length_map _
        simp only [Call.Point.recast, hh, Bool.false_eq_true, ↓reduceIte, Option.map_some,
          recast_moveCall, recast_keepPrevious, recast_startRenewal, hdefer, hlength]
        cases (pass.deferred? now t.retry).isSome <;> rfl
    | _ => rfl

theorem recast_finishCall (c : CallId) :
    (s.recast κ).finishCall c = (s.finishCall c).map (State.recast κ) := by
  unfold finishCall
  cases hc : s.calls[c]? with
  | none => simp [hc]
  | some call =>
    obtain ⟨context, style, inside, hasRuntime, cancelled, point⟩ := call
    cases point with
    | settling r exit =>
      cases hr : s.renewals[r]? with
      | none => simp [hc, Call.recast, hr]
      | some renewal =>
        obtain ⟨context', previous, source, flight, point⟩ := renewal
        cases point <;> simp [hc, Call.recast, hr, Renewal.recast]
    | _ => simp [hc, Call.recast]

theorem recast_dropCall (c : CallId) :
    (s.recast κ).dropCall c = (s.dropCall c).map (State.recast κ) := by
  unfold dropCall
  cases hc : s.calls[c]? with
  | none => simp [hc]
  | some call =>
    obtain ⟨context, style, inside, hasRuntime, cancelled, point⟩ := call
    cases style <;> cases point <;> simp [hc, Call.recast]

theorem recast_beginRenewal (r : RenewalId) :
    (s.recast κ).beginRenewal r = (s.beginRenewal r).map (State.recast κ) := by
  unfold beginRenewal
  cases hr : s.renewals[r]? with
  | none => simp [hr]
  | some renewal =>
    obtain ⟨context, previous, source, flight, point⟩ := renewal
    cases point <;> simp [hr, Renewal.recast]

theorem recast_askRenewal (r : RenewalId) :
    (s.recast κ).askRenewal r = (s.askRenewal r).map (State.recast κ) := by
  unfold askRenewal
  cases hr : s.renewals[r]? with
  | none => simp [hr]
  | some renewal =>
    obtain ⟨context, previous, source, flight, point⟩ := renewal
    cases point <;> simp [hr, Renewal.recast]

theorem recast_answerRenewal (r : RenewalId) (answer : Answer) (now : Instant) :
    (s.recast κ).answerRenewal t r (Answer.recast κ answer) now =
      (s.answerRenewal t r answer now).map (State.recast κ) := by
  unfold answerRenewal
  cases hr : s.renewals[r]? with
  | none => simp [hr]
  | some renewal =>
    cases hp : renewal.point with
    | asking =>
      cases answer with
      | error fault =>
        simp [hr, Renewal.recast, hp, Answer.recast, Except.map, recast_keepPrevious]
      | ok token =>
        cases hq : Pass.ofToken? token t.lead <;>
          simp [hr, Renewal.recast, hp, Answer.recast, Except.map, Pass.recast_ofToken?, hq]
    | _ => simp [hr, Renewal.recast, hp]

theorem recast_expireRenewal (r : RenewalId) (now : Instant) :
    (s.recast κ).expireRenewal r now = (s.expireRenewal r now).map (State.recast κ) := by
  unfold expireRenewal
  cases hr : s.renewals[r]? with
  | none => simp [hr]
  | some renewal =>
    cases hp : renewal.point <;> simp [hr, Renewal.recast, hp, recast_keepPrevious]

theorem recast_closeRenewal (r : RenewalId) :
    (s.recast κ).closeRenewal r = (s.closeRenewal r).map (State.recast κ) := by
  unfold closeRenewal
  cases hr : s.renewals[r]? with
  | none => simp [hr]
  | some renewal =>
    obtain ⟨context, previous, source, flight, point⟩ := renewal
    cases point <;> simp [hr, Renewal.recast]

theorem recast_countRenewal (r : RenewalId) :
    (s.recast κ).countRenewal r = (s.countRenewal r).map (State.recast κ) := by
  unfold countRenewal
  cases hr : s.renewals[r]? with
  | none => simp [hr]
  | some renewal =>
    obtain ⟨context, previous, source, flight, point⟩ := renewal
    cases point <;> simp [hr, Renewal.recast]

theorem recast_abandonRenewal (r : RenewalId) :
    (s.recast κ).abandonRenewal r = (s.abandonRenewal r).map (State.recast κ) := by
  unfold abandonRenewal
  cases hr : s.renewals[r]? with
  | none => simp [hr]
  | some renewal =>
    obtain ⟨context, previous, source, flight, point⟩ := renewal
    cases point <;> simp [hr, Renewal.recast]

theorem recast_cancel (c : CallId) : (s.cancel c).recast κ = (s.recast κ).cancel c := by
  have hcalls : (s.calls.modify c fun call => { call with cancelled := true }).map (Call.recast κ) =
      (s.calls.map (Call.recast κ)).modify c fun call => { call with cancelled := true } :=
    map_modify _ _ (by intro _; rfl)
  simp only [cancel, recast, hcalls]

theorem recast_call (context : Context) (style : Style) (inside hasRuntime : Bool) :
    (s.call context style inside hasRuntime).recast κ =
      (s.recast κ).call (κ.context context) style inside hasRuntime := by
  unfold call
  cases style.refusal? inside hasRuntime <;> simp [recast, Call.recast, Except.map]

/-- A step with other texts is the step with those texts. -/
theorem recast_step (a : Action) :
    (s.recast κ).step t (a.recast κ) = (s.step t a).map (State.recast κ) := by
  cases a with
  | call => exact congrArg some (recast_call ..).symm
  | cancel => exact congrArg some (recast_cancel ..).symm
  | decide => exact recast_decideCall ..
  | enter => exact recast_enterCall ..
  | ask => exact recast_askCall ..
  | answer => exact recast_answerCall ..
  | crash => exact recast_crashCall ..
  | withdraw => exact recast_withdrawCall ..
  | close => exact recast_closeCall ..
  | resume => exact recast_resumeCall ..
  | launch => exact recast_launchCall ..
  | settle => exact recast_settleCall ..
  | finish => exact recast_finishCall ..
  | drop => exact recast_dropCall ..
  | begin => exact recast_beginRenewal ..
  | askRenewal => exact recast_askRenewal ..
  | answerRenewal => exact recast_answerRenewal ..
  | expire => exact recast_expireRenewal ..
  | closeRenewal => exact recast_closeRenewal ..
  | countRenewal => exact recast_countRenewal ..
  | abandon => exact recast_abandonRenewal ..

theorem recast_run? (actions : List Action) :
    (s.recast κ).run? t (actions.map (Action.recast κ)) =
      (s.run? t actions).map (State.recast κ) := by
  induction actions generalizing s with
  | nil => rfl
  | cons a actions ih =>
    simp only [List.map_cons, run?, List.foldlM_cons, recast_step]
    cases h : s.step t a with
    | none => rfl
    | some x => exact ih

end State

end Cache
end BearerTokens
