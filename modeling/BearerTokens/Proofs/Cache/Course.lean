import BearerTokens.Proofs.Cache.Held
import BearerTokens.Proofs.Cache.History

/-! # Where a call is after its last decision

A call decides again only when it has waited on a flight that was given up, so its last decision
settles what it comes to.  From there the point of the call says how far it is.  A call that is done
has ended with the outcome of the flight that it opened or waited on, or with the pass that it was
served, unless its caller gave it up or an instant left the calendar.
-/

namespace BearerTokens.Cache

def Decision.Found (before : List Happening) (now : Instant) : Decision → Prop
  | .acquire f | .wait f => written before f = []
  | .renew _ source pass | .serve source pass =>
    written before source = [.ready pass] ∧ now < pass.expiry

namespace Call

/-- How the call that fills a flight ends, by the outcome that it writes.  The flag says whether the
caller has asked to cancel. -/
inductive Ends (cancelled : Bool) : Outcome → Exit → Prop where
  | told {o : Outcome} (hn : o ≠ .cancelled) : Ends cancelled o (.returned o.header)
  | withdrawn (hc : cancelled = true) : Ends cancelled .cancelled (.returned (.error .cancelled))
  | crashed : Ends cancelled .cancelled .crashed
  | dropped : Ends cancelled .cancelled .dropped

inductive Idles (cancelled : Bool) : Point → Prop where
  | deciding : Idles cancelled .deciding
  | refused {fault : ConfigFault} : Idles cancelled (.done (.returned (.error (.config fault))))
  | withdrawn (hc : cancelled = true) : Idles cancelled (.done (.returned (.error .cancelled)))
  | dropped : Idles cancelled (.done .dropped)

inductive Follows (s : State) (cancelled : Bool) : Decision → Point → Prop where
  | opening {f : FlightId} : Follows s cancelled (.acquire f) (.opening f)
  | calling {f : FlightId} : Follows s cancelled (.acquire f) (.calling f)
  | asking {f : FlightId} : Follows s cancelled (.acquire f) (.asking f)
  | closing {f : FlightId} {o : Outcome} {exit : Exit} (he : Ends cancelled o exit) :
      Follows s cancelled (.acquire f) (.closing f o exit)
  | acquired {f : FlightId} {o : Outcome} {exit : Exit} (ho : s.outcome? f = some o)
      (he : Ends cancelled o exit) : Follows s cancelled (.acquire f) (.done exit)
  | waiting {f : FlightId} : Follows s cancelled (.wait f) (.waiting f)
  | again {f : FlightId} (ho : s.outcome? f = some .cancelled) : Follows s cancelled (.wait f) .deciding
  | shared {f : FlightId} {o : Outcome} (ho : s.outcome? f = some o) (hn : o ≠ .cancelled) :
      Follows s cancelled (.wait f) (.done (.returned o.header))
  | withdrawn {f : FlightId} (hc : cancelled = true) :
      Follows s cancelled (.wait f) (.done (.returned (.error .cancelled)))
  | dropped {f : FlightId} : Follows s cancelled (.wait f) (.done .dropped)
  | launching {f source : FlightId} {pass : Pass} :
      Follows s cancelled (.renew f source pass) (.launching f source pass)
  | settling {f source : FlightId} {pass : Pass} {r : RenewalId} {exit : Exit}
      (he : exit = .returned (.ok pass.header) ∨ exit = .crashed) :
      Follows s cancelled (.renew f source pass) (.settling r exit)
  | launched {f source : FlightId} {pass : Pass} {exit : Exit}
      (he : exit = .returned (.ok pass.header) ∨ exit = .crashed) :
      Follows s cancelled (.renew f source pass) (.done exit)
  | served {source : FlightId} {pass : Pass} :
      Follows s cancelled (.serve source pass) (.done (.returned (.ok pass.header)))

end Call

namespace State

/-- The last decision of a call, with the history before it.  Earlier the call has waited on flights
that were given up. -/
structure Decided (s : State) (c : CallId) (before : List Happening) (now : Instant) (d : Decision) :
    Prop where
  split : ∃ after, s.history = before ++ .decided c now d :: after ∧
    ∀ now' d', .decided c now' d' ∉ after
  found : d.Found before now
  earlier (now' : Instant) (d' : Decision) : .decided c now' d' ∈ before →
    ∃ f, d' = .wait f ∧ s.outcome? f = some .cancelled

/-- A call has not decided, or is where its last decision leads. -/
inductive Course (s : State) (c : CallId) (call : Call) : Prop where
  | undecided (hn : ∀ now d, .decided c now d ∉ s.history) (hp : Call.Idles call.cancelled call.point)
  | decided {before : List Happening} {now : Instant} {d : Decision}
      (hd : s.Decided c before now d) (hf : Call.Follows s call.cancelled d call.point)

end State

variable {t : Timing} {s s' : State} {c : CallId} {call : Call} {d : Decision} {cancelled : Bool}

/-! ## Points -/

theorem Call.Follows.leads : Follows s cancelled d d.leads := by cases d <;> constructor

theorem Call.Follows.mono {p : Point} (hf : Follows s cancelled d p) (he : Extends s s') :
    Follows s' cancelled d p := by
  cases hf with
  | acquired ho hends => exact .acquired (he.outcome ho) hends
  | again ho => exact .again (he.outcome ho)
  | shared ho hn => exact .shared (he.outcome ho) hn
  | closing hends => exact .closing hends
  | withdrawn hc => exact .withdrawn hc
  | settling hexit => exact .settling hexit
  | launched hexit => exact .launched hexit
  | _ => constructor

theorem Call.Ends.flag {o : Outcome} {exit : Exit} (he : Ends cancelled o exit) :
    Ends true o exit := by
  cases he with
  | told hn => exact .told hn
  | withdrawn => exact .withdrawn rfl
  | crashed => exact .crashed
  | dropped => exact .dropped

/-- Asking a call to cancel changes nothing about where it is. -/
theorem Call.Follows.flag {p : Point} (hf : Follows s cancelled d p) : Follows s true d p := by
  cases hf with
  | acquired ho hends => exact .acquired ho hends.flag
  | again ho => exact .again ho
  | shared ho hn => exact .shared ho hn
  | closing hends => exact .closing hends.flag
  | withdrawn => exact .withdrawn rfl
  | settling hexit => exact .settling hexit
  | launched hexit => exact .launched hexit
  | _ => constructor

theorem Call.Idles.flag {p : Point} (hp : Idles cancelled p) : Idles true p := by
  cases hp with
  | withdrawn => exact .withdrawn rfl
  | _ => constructor

theorem Call.Walks.follows {a : Action} {p : Point} {lines : List Happening}
    {tally : Metrics → Metrics} (hw : call.Walks t s c a p lines tally)
    (hf : Call.Follows s call.cancelled d call.point) : Follows s call.cancelled d p := by
  cases hw with
  | enter hp => rw [hp] at hf; cases hf; exact .calling
  | ask hp => rw [hp] at hf; cases hf; exact .asking
  | answered hp => rw [hp] at hf; cases hf; exact .closing (.told nofun)
  | refused hp => rw [hp] at hf; cases hf; exact .closing (.told nofun)
  | unfit hp | crash hp => rw [hp] at hf; cases hf; exact .closing .crashed
  | drop _ hp => rw [hp] at hf; cases hf; exact .closing .dropped
  | withdraw hc hp =>
    rcases hp with hp | hp <;> (rw [hp] at hf; cases hf; exact .closing (.withdrawn hc))
  | withdrawEarly hc _ hp => rw [hp] at hf; cases hf; exact .withdrawn hc
  | withdrawWaiting hc hp => rw [hp] at hf; cases hf; exact .withdrawn hc
  | again hp ho => rw [hp] at hf; cases hf; exact .again ho
  | share hp ho hn => rw [hp] at hf; cases hf; exact .shared ho hn
  | finish hp => rw [hp] at hf; cases hf with | settling he => exact .launched he
  | dropIdle _ hp =>
    rcases hp with hp | ⟨f, hp⟩ <;> (rw [hp] at hf; cases hf; exact .dropped)

theorem Call.Walks.idles {a : Action} {p : Point} {lines : List Happening}
    {tally : Metrics → Metrics} (hw : call.Walks t s c a p lines tally)
    (hi : Idles call.cancelled call.point) : Idles call.cancelled p := by
  cases hw with
  | withdrawEarly hc => exact .withdrawn hc
  | dropIdle => exact .dropped
  | withdraw _ hp => rcases hp with hp | hp <;> (rw [hp] at hi; cases hi)
  | enter hp | ask hp | answered hp | unfit hp | refused hp | crash hp | withdrawWaiting _ hp
  | again hp | share hp | finish hp | drop _ hp =>
    rw [hp] at hi
    cases hi

/-! ## The last decision -/

theorem State.Moves.appends {a : Action} (hs : s.Matched) (hm : State.Moves t s a s')
    (ha : ∀ now, a ≠ .decide c now) :
    ∃ lines, s'.history = s.history ++ lines ∧ ∀ now d, .decided c now d ∉ lines := by
  cases hm.historyFrom hs with
  | @decided i now d hh =>
    refine ⟨_, hh, fun now' d' hl => ?_⟩
    obtain ⟨rfl, -⟩ : c = i ∧ _ := by simpa using hl
    exact ha now rfl
  | wrote hh => exact ⟨_, hh, by simp⟩
  | aside hl hh => exact ⟨_, hh, fun now d hmem => hl _ hmem⟩

theorem State.Decided.step {a : Action} {before : List Happening} {now : Instant}
    (hd : s.Decided c before now d) (hs : s.Matched) (hm : State.Moves t s a s')
    (ha : ∀ now, a ≠ .decide c now) : s'.Decided c before now d := by
  obtain ⟨lines, hh, hl⟩ := hm.appends hs ha
  obtain ⟨after, hsplit, hafter⟩ := hd.split
  refine ⟨⟨after ++ lines, by simp [hh, hsplit], fun now' d' hmem => ?_⟩, hd.found, ?_⟩
  · rcases List.mem_append.mp hmem with hmem | hmem
    · exact hafter now' d' hmem
    · exact hl now' d' hmem
  · intro now' d' hmem
    obtain ⟨f, hf, ho⟩ := hd.earlier now' d' hmem
    exact ⟨f, hf, hm.extends.outcome ho⟩

theorem State.Decided.mem {before : List Happening} {now : Instant}
    (hd : s.Decided c before now d) : .decided c now d ∈ s.history := by
  obtain ⟨after, hh, -⟩ := hd.split
  simp [hh]

/-- Whatever a call decides but to wait is its last decision. -/
theorem State.Decided.eq_of_mem {before : List Happening} {now now' : Instant} {d' : Decision}
    (hd : s.Decided c before now d) (hl : .decided c now' d' ∈ s.history)
    (hn : ∀ f, d' ≠ .wait f) : now' = now ∧ d' = d := by
  obtain ⟨after, hh, hlast⟩ := hd.split
  rw [hh] at hl
  rcases List.mem_append.mp hl with hl | hl
  · obtain ⟨f, hf, -⟩ := hd.earlier now' d' hl
    exact absurd hf (hn f)
  · rcases List.mem_cons.mp hl with he | hl
    · cases he
      exact ⟨rfl, rfl⟩
    · exact absurd hl (hlast now' d')

/-- A call that is about to decide has only waited on flights that were given up. -/
theorem State.Course.waited (h : s.Course c call) (hp : call.point = .deciding) {now : Instant}
    (hl : Happening.decided c now d ∈ s.history) :
    ∃ f, d = .wait f ∧ s.outcome? f = some .cancelled := by
  cases h with
  | undecided hn => exact absurd hl (hn now d)
  | @decided before now' d' hd hf =>
    rw [hp] at hf
    obtain ⟨after, hh, hafter⟩ := hd.split
    rw [hh] at hl
    rcases List.mem_append.mp hl with hl | hl
    · exact hd.earlier now d hl
    · rcases List.mem_cons.mp hl with he | hl
      · obtain ⟨-, -, rfl⟩ : c = c ∧ now = now' ∧ d = d' := by simpa using he
        cases hf with
        | again ho => exact ⟨_, rfl, ho⟩
      · exact absurd hl (hafter now d)

theorem Holding.Decides.found {context : Context} {now : Instant} {h' : Holding}
    (hd : s.holding.Decides s.outcome? s.flights.length context now h' d)
    (hw : ∀ f, written s.history f = (s.outcome? f).toList) : d.Found s.history now := by
  cases hd with
  | anew | lapsed => simp [Decision.Found, hw, State.outcome?]
  | wait _ _ _ ho => simp [Decision.Found, hw, ho]
  | renew _ _ _ _ _ hu | serve _ _ _ _ _ hu =>
    obtain ⟨-, ho, hgood⟩ := Holding.usable_eq_some.mp hu
    exact ⟨by simp [hw, ho], Pass.expiredAt_eq_false_iff.mp hgood⟩

theorem State.Course.step_decide {now : Instant} (hr : Reachable t s)
    (ih : ∀ call, s.calls[c]? = some call → s.Course c call)
    (hm : State.Moves t s (.decide c now) s') (hc : s'.calls[c]? = some call) :
    s'.Course c call := by
  obtain ⟨before, d, hb, hp, hd, hled, hh⟩ := hm.decided
  cases hc.symm.trans hled
  refine .decided ⟨⟨[], hh, by simp⟩, hd.found hr.written_eq, fun now' d' hl => ?_⟩ .leads
  obtain ⟨f, hf, ho⟩ := (ih before hb).waited hp hl
  exact ⟨f, hf, hm.extends.outcome ho⟩

theorem State.Course.step {a : Action} (hr : Reachable t s)
    (ih : ∀ call, s.calls[c]? = some call → s.Course c call) (hm : State.Moves t s a s')
    (hc : s'.calls[c]? = some call) : s'.Course c call := by
  by_cases ha : ∃ now, a = .decide c now
  · obtain ⟨now, rfl⟩ := ha
    exact State.Course.step_decide hr ih hm hc
  · have hne : ∀ now, a ≠ .decide c now := fun now he => ha ⟨now, he⟩
    have he := hm.extends
    have hfresh : (∀ now d, .decided c now d ∉ s.history) → ∀ now d, .decided c now d ∉ s'.history := by
      intro hn now d hl
      rcases hm.decided_line hl with hl | rfl
      · exact hn now d hl
      · exact hne now rfl
    -- where the call is now, from where it was
    have hcarry : ∀ {before after : Call}, s.calls[c]? = some before →
        (Call.Idles before.cancelled before.point → Call.Idles after.cancelled after.point) →
        (∀ d, Call.Follows s before.cancelled d before.point →
          Call.Follows s' after.cancelled d after.point) →
        s'.Course c after := by
      intro before after hb hidles hfollows
      cases ih before hb with
      | undecided hn hp => exact .undecided (hfresh hn) (hidles hp)
      | decided hd hf => exact .decided (hd.step hr.matched hm hne) (hfollows _ hf)
    cases hm.callFrom hc with
    | same hi => exact hcarry hi id fun d hf => hf.mono he
    | added hp =>
      refine .undecided (hfresh fun now d hl => ?_) ?_
      · exact absurd (hr.decided_call hl) (Nat.lt_irrefl _)
      · rcases hp with rfl | ⟨fault, rfl⟩ <;> constructor
    | flagged hi => exact hcarry hi (·.flag) fun d hf => hf.flag.mono he
    | decided => exact absurd rfl (hne _)
    | walked hi hw => exact hcarry hi hw.idles fun d hf => (hw.follows hf).mono he
    | closed hi hp hf =>
      have ho := hr.matched.outcome_written (State.drives?_closing hi hp) hf
      refine hcarry hi (fun hidle => ?_) fun d hfollows => ?_
      · rw [hp] at hidle
        cases hidle
      · rw [hp] at hfollows
        cases hfollows with
        | closing hends => exact .acquired ho hends
    | launched hi hp hrenewal hs =>
      subst hrenewal
      refine hcarry hi (fun hidle => ?_) fun d hfollows => ?_
      · rw [hp] at hidle
        cases hidle
      · rw [hp] at hfollows
        cases hfollows
        cases hs with
        | hosted => exact .launched (.inl rfl)
        | alone _ hexit =>
          refine .settling ?_
          rw [hexit]
          split
          · exact .inl rfl
          · exact .inr rfl

theorem Reachable.course (hr : Reachable t s) (hc : s.calls[c]? = some call) : s.Course c call :=
  hr.induct (P := fun x => ∀ call, x.calls[c]? = some call → x.Course c call) (by simp)
    (fun _ _ _ hx hm ih _ hc => State.Course.step hx ih hm hc) call hc

/-! ## Calls that are done -/

theorem Outcome.header_eq_ok {o : Outcome} {header : String} (h : o.header = .ok header) :
    ∃ pass, o = .ready pass ∧ pass.header = header := by
  cases o with
  | ready pass => exact ⟨pass, rfl, Except.ok.inj h⟩
  | failed | cancelled => cases h

/-- A call that opened a flight or waited on it returns a header from the flight's pass; any other
returns the header of the pass that it was served. -/
theorem Call.Follows.supplied {p : Point} {header : String} (hf : Follows s cancelled d p)
    (hp : p = .done (.returned (.ok header))) :
    (∃ f pass, (d = .acquire f ∨ d = .wait f) ∧ s.outcome? f = some (.ready pass) ∧
      pass.header = header) ∨
    ∃ source pass, (d = .serve source pass ∨ ∃ f, d = .renew f source pass) ∧ pass.header = header := by
  cases hf with
  | @acquired f o exit ho hends =>
    cases hends with
    | told =>
      obtain ⟨pass, rfl, hheader⟩ : ∃ pass, o = .ready pass ∧ pass.header = header :=
        Outcome.header_eq_ok (by simpa using hp)
      exact .inl ⟨f, pass, .inl rfl, ho, hheader⟩
    | withdrawn | crashed | dropped => cases hp
  | @shared f o ho hn =>
    obtain ⟨pass, rfl, hheader⟩ : ∃ pass, o = .ready pass ∧ pass.header = header :=
      Outcome.header_eq_ok (by simpa using hp)
    exact .inl ⟨f, pass, .inr rfl, ho, hheader⟩
  | @launched f source pass exit he =>
    rcases he with rfl | rfl
    · exact .inr ⟨source, pass, .inr ⟨f, rfl⟩, by simpa using hp⟩
    · cases hp
  | @served source pass => exact .inr ⟨source, pass, .inl rfl, by simpa using hp⟩
  | _ => cases hp

theorem Reachable.decided_follows (hr : Reachable t s) (hc : s.calls[c]? = some call) {now : Instant}
    (hl : .decided c now d ∈ s.history) (hn : ∀ f, d ≠ .wait f) :
    Call.Follows s call.cancelled d call.point := by
  cases hr.course hc with
  | undecided hnone => exact absurd hl (hnone now d)
  | decided hd hf =>
    obtain ⟨-, rfl⟩ := hd.eq_of_mem hl hn
    exact hf

/-- A call decides not to wait at most once. -/
theorem Reachable.decided_unique (hr : Reachable t s) {now now' : Instant} {d' : Decision}
    (hl : .decided c now d ∈ s.history) (hn : ∀ f, d ≠ .wait f)
    (hl' : .decided c now' d' ∈ s.history) (hn' : ∀ f, d' ≠ .wait f) : now = now' ∧ d = d' := by
  cases hr.course (List.getElem?_eq_getElem (hr.decided_call hl)) with
  | undecided hnone => exact absurd hl (hnone now d)
  | decided hd =>
    obtain ⟨rfl, rfl⟩ := hd.eq_of_mem hl hn
    obtain ⟨rfl, rfl⟩ := hd.eq_of_mem hl' hn'
    exact ⟨rfl, rfl⟩

/-- A call that acquires has opened its flight. -/
theorem Reachable.driving_decided (hr : Reachable t s) (hc : s.calls[c]? = some call) {f : FlightId}
    (hd : call.point.drives? = some (.synchronous, f)) :
    ∃ now, .decided c now (.acquire f) ∈ s.history := by
  cases hr.course hc with
  | undecided _ hi =>
    generalize call.point = p at hi hd
    cases hi <;> cases hd
  | decided hdecided hf =>
    generalize call.point = p at hf hd
    cases hf <;> cases hd <;> exact ⟨_, hdecided.mem⟩

theorem Reachable.follows (hr : Reachable t s) (hc : s.calls[c]? = some call)
    (hp : ¬ Call.Idles call.cancelled call.point) : ∃ before now d, s.Decided c before now d ∧
      Call.Follows s call.cancelled d call.point := by
  cases hr.course hc with
  | undecided _ hidle => exact absurd hidle hp
  | decided hd hf => exact ⟨_, _, _, hd, hf⟩

end BearerTokens.Cache
