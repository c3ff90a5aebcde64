import BearerTokens.Proofs.Cache.Isolation

/-! # Reports from outside

A cache writes its history and never reads it, and others write reports between its own lines.  So a
cache that others report through is at each moment a reachable state with further reports, and what its
own lines tell of requests and answers holds of it as well.
-/

namespace BearerTokens.Cache

variable {t : Timing} {s s' : State}

namespace State

def after (s : State) (earlier : List Happening) : State := { s with history := earlier ++ s.history }

section Frame

variable (s : State) (earlier : List Happening)

@[simp] theorem after_calls : (s.after earlier).calls = s.calls := rfl

@[simp] theorem after_renewals : (s.after earlier).renewals = s.renewals := rfl

@[simp] theorem after_outcome? : (s.after earlier).outcome? = s.outcome? := rfl

@[simp] theorem after_record (lines : List Happening) :
    (s.after earlier).record lines = (s.record lines).after earlier := by
  simp [record, after]

@[simp] theorem after_report (entries : List Entry) :
    (s.after earlier).report entries = (s.report entries).after earlier := after_record ..

@[simp] theorem after_count (tally : Metrics → Metrics) :
    (s.after earlier).count tally = (s.count tally).after earlier := rfl

@[simp] theorem after_moveCall (c : CallId) (p : Call.Point) :
    (s.after earlier).moveCall c p = (s.moveCall c p).after earlier := rfl

@[simp] theorem after_moveRenewal (r : RenewalId) (p : Renewal.Point) :
    (s.after earlier).moveRenewal r p = (s.moveRenewal r p).after earlier := rfl

@[simp] theorem after_openFlight (mode : Mode) (context : Context) :
    (s.after earlier).openFlight mode context = (s.openFlight mode context).after earlier := rfl

@[simp] theorem after_writeFlight (f : FlightId) (o : Outcome) :
    (s.after earlier).writeFlight f o = (s.writeFlight f o).after earlier := by
  simp [writeFlight, record, after]

@[simp] theorem after_follow (style : Style) (c : CallId) (context : Context) (d : Decision) :
    (s.after earlier).follow style c context d = (s.follow style c context d).after earlier := by
  cases style <;> cases d <;> rfl

@[simp] theorem after_startRenewal (renewal : Renewal) :
    (s.after earlier).startRenewal renewal = (s.startRenewal renewal).after earlier := rfl

@[simp] theorem after_countEnding (ending : Ending) :
    (s.after earlier).countEnding ending = (s.countEnding ending).after earlier := by
  cases ending <;> simp [countEnding]

@[simp] theorem after_keepPrevious (r : RenewalId) (renewal : Renewal) (now : Instant)
    (delay : Duration) (reason : Reason) (error : String) :
    (s.after earlier).keepPrevious r renewal now delay reason error =
      (s.keepPrevious r renewal now delay reason error).after earlier := by
  unfold keepPrevious
  split <;> simp

end Frame

/-- Earlier lines stay in front and change nothing. -/
theorem step_after (s : State) (earlier : List Happening) (a : Action) :
    (s.after earlier).step t a = (s.step t a).map (·.after earlier) := by
  cases a with
  | call | cancel => rfl
  | decide c now =>
    simp only [step, decideCall, after_calls]
    split
    · rfl
    next context style _ _ _ _ _ =>
      let decided := s.holding.decide s.outcome? s.flights.length context now
      let held := { s with holding := decided.1 }.after earlier
      have hfollow : (held.record [.decided c now decided.2]).follow style c context decided.2 =
          (({ s with holding := decided.1 }.record [.decided c now decided.2]).follow style c context
            decided.2).after earlier := by
        simp [held]
      exact congrArg some hfollow
    · rfl
  | answer c answer =>
    simp only [step, answerCall, after_calls]
    split
    · cases answer with
      | error => simp
      | ok token =>
        simp only []
        split <;> simp
    · rfl
  | resume c =>
    simp only [step, resumeCall, after_calls, after_outcome?]
    split
    next f _ => cases s.outcome? f <;> simp
    · rfl
  | launch c =>
    simp only [step, launchCall, after_calls]
    split
    · split
      · split <;> simp
      · rfl
    · rfl
  | settle c now =>
    simp only [step, settleCall, after_calls, after_renewals]
    split
    · split
      · split <;> simp
      · rfl
    · rfl
  | finish c =>
    simp only [step, finishCall, after_calls, after_renewals]
    split
    · split <;> simp
    · rfl
  | answerRenewal r answer now =>
    simp only [step, answerRenewal, after_renewals]
    split
    · split
      · cases answer with
        | error => simp
        | ok token =>
          simp only []
          split <;> simp
      · rfl
    · rfl
  | expire r now =>
    simp only [step, expireRenewal, after_renewals]
    split
    · split <;> simp
    · rfl
  | enter | ask | crash | withdraw | close | drop =>
    simp only [step, enterCall, askCall, crashCall, withdrawCall, closeCall, dropCall, after_calls]
    split <;> simp
  | «begin» | askRenewal | closeRenewal | countRenewal | abandon =>
    simp only [step, beginRenewal, State.askRenewal, closeRenewal, countRenewal, abandonRenewal,
      after_renewals]
    split <;> simp

end State

def Happening.own : Happening → Bool
  | .reported _ => false
  | _ => true

/-- The state is a reachable one but for the reports in its history. -/
def Shared (t : Timing) (s : State) : Prop :=
  ∃ core, Reachable t core ∧ s = { core with history := s.history } ∧
    s.history.filter Happening.own = core.history.filter Happening.own

theorem Reachable.shared (hr : Reachable t s) : Shared t s := ⟨s, hr, rfl, rfl⟩

theorem Shared.report (hs : Shared t s) (entries : List Entry) : Shared t (s.report entries) := by
  obtain ⟨core, hr, heq, hown⟩ := hs
  refine ⟨core, hr, ?_, ?_⟩
  · rw [heq]
    rfl
  · have hnone : (entries.map Happening.reported).filter Happening.own = [] := by
      simp [List.filter_eq_nil_iff, Happening.own]
    rw [State.report, State.record, List.filter_append, hnone, List.append_nil, hown]

theorem Shared.step (hs : Shared t s) {a : Action} (hstep : s.step t a = some s') : Shared t s' := by
  obtain ⟨core, hr, heq, hown⟩ := hs
  -- both states take the step of the core without any history
  obtain ⟨bare, hbare⟩ : ∃ bare : State, bare = { core with history := [] } := ⟨_, rfl⟩
  have hcore : core = bare.after core.history := by simp [hbare, State.after]
  have hwhole : s = bare.after s.history := by
    rw [hbare, State.after, List.append_nil]
    exact heq
  rw [hwhole, State.step_after] at hstep
  obtain ⟨next, hnext, rfl⟩ := Option.map_eq_some_iff.mp hstep
  have hreach : core.step t a = some (next.after core.history) := by
    conv_lhs => rw [hcore, State.step_after, hnext]
    rfl
  refine ⟨_, hr.step hreach, rfl, ?_⟩
  simp only [State.after, List.filter_append, hown]

/-! ## Who asked for a token -/

def State.context? (s : State) : Requester → Option Context
  | .call c => (s.calls[c]?).map (·.context)
  | .renewal r => (s.renewals[r]?).map (·.context)

def State.IssuedBy (s : State) (q : Requester) (context : Context) (header : String) : Prop :=
  ∃ asker token, [.asked q asker, .answered q (.ok token)].Sublist s.history ∧
    asker.Equivalent context ∧ header = "Bearer " ++ token.secret.value

variable {q : Requester} {context context' : Context} {header header' : String}

theorem Extends.context? (he : Extends s s') (hq : s.context? q = some context) :
    s'.context? q = some context := by
  cases q with
  | call c =>
    obtain ⟨call, hc, rfl⟩ := Option.map_eq_some_iff.mp hq
    obtain ⟨call', hc', hx, -⟩ := he.call c call hc
    simp [State.context?, hc', hx]
  | renewal r =>
    obtain ⟨renewal, hr, rfl⟩ := Option.map_eq_some_iff.mp hq
    obtain ⟨p, hr'⟩ := he.renewal r renewal hr
    simp [State.context?, hr']

/-- A call or renewal asks in its own context. -/
theorem Reachable.asked_context (hr : Reachable t s) (hl : .asked q context ∈ s.history) :
    s.context? q = some context := by
  refine hr.induct (P := fun x => .asked q context ∈ x.history → x.context? q = some context)
    (by simp) (fun a x y _ hm ih => ?_) hl
  intro hl
  cases hm.lineFrom hl with
  | same hl => exact hm.extends.context? (ih hl)
  | walked _ hw hl hc' =>
    cases hw with
    | ask =>
      obtain ⟨rfl, rfl⟩ : q = .call _ ∧ context = _ := by simpa using hl
      simp [State.context?, hc']
    | _ => simp at hl
  | started _ _ _ hs hl =>
    cases hs with
    | hosted => simp at hl
    | alone hk => cases hk <;> simp at hl
  | walkedRenewal _ hw hl hr' =>
    cases hw with
    | ask =>
      obtain ⟨rfl, rfl⟩ : q = .renewal _ ∧ context = _ := by simpa using hl
      simp [State.context?, hr']
    | refused _ hk | expire _ hk => cases hk <;> simp at hl
    | _ => simp at hl

theorem State.Issued.by (h : s.Issued context header) : ∃ q, s.IssuedBy q context header := by
  obtain ⟨q, asker, token, before, after, hh, hasked, heq, hheader⟩ := h
  refine ⟨q, asker, token, ?_, heq, hheader⟩
  have hfirst : [.asked q asker].Sublist before := List.singleton_sublist.mpr hasked
  have hsecond : [.answered q (.ok token)].Sublist (.answered q (.ok token) :: after) :=
    List.singleton_sublist.mpr List.mem_cons_self
  rw [hh]
  exact hfirst.append hsecond

/-- Reports do not matter for what was issued. -/
theorem State.IssuedBy.congr (hown : s.history.filter Happening.own = s'.history.filter Happening.own)
    (h : s.IssuedBy q context header) : s'.IssuedBy q context header := by
  obtain ⟨asker, token, hpair, heq, hheader⟩ := h
  refine ⟨asker, token, ?_, heq, hheader⟩
  have hfiltered := hpair.filter Happening.own
  rw [hown] at hfiltered
  exact hfiltered.trans List.filter_sublist

theorem Reachable.issued (hr : Reachable t s) {c : CallId} {call : Call}
    (hc : s.calls[c]? = some call) (hp : call.point = .done (.returned (.ok header))) :
    s.Issued call.context header := by
  have hfed := hr.fed hc
  rw [hp] at hfed
  obtain ⟨f, pass, hchose, ho, rfl⟩ := hfed header rfl
  exact hr.sourced.chose hr hchose ho hc

/-- A call that has returned a header got a token that was issued for its own context. -/
theorem Shared.issued (hs : Shared t s) {c : CallId} {call : Call} (hc : s.calls[c]? = some call)
    (hp : call.point = .done (.returned (.ok header))) : ∃ q, s.IssuedBy q call.context header := by
  obtain ⟨core, hr, heq, hown⟩ := hs
  rw [heq] at hc
  obtain ⟨q, hq⟩ := (hr.issued hc hp).by
  exact ⟨q, hq.congr hown.symm⟩

/-- Tokens for contexts that are not equivalent were asked for by different calls or renewals. -/
theorem Shared.requesters_ne (hs : Shared t s) (hne : ¬ context.Equivalent context') {q' : Requester}
    (hq : s.IssuedBy q context header) (hq' : s.IssuedBy q' context' header') : q ≠ q' := by
  obtain ⟨core, hr, -, hown⟩ := hs
  obtain ⟨asker, token, hpair, heq, -⟩ := hq.congr hown
  obtain ⟨asker', token', hpair', heq', -⟩ := hq'.congr hown
  rintro rfl
  have hasked := hr.asked_context (hpair.subset List.mem_cons_self)
  have hasked' := hr.asked_context (hpair'.subset List.mem_cons_self)
  cases hasked.symm.trans hasked'
  exact hne (heq.symm.trans heq')

end BearerTokens.Cache
