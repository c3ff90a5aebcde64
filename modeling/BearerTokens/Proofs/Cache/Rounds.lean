import BearerTokens.Proofs.Cache.SingleFlight
import BearerTokens.Proofs.Cache.Tallies
import BearerTokens.Proofs.Cache.Course
import Mathlib.Data.List.Nodup
import Mathlib.Data.List.Perm.Subperm

/-! # Rounds of a call

A call decides once in each of its rounds, and it goes round again only when the flight that it decided to wait on
was given up since.  A flight that has an outcome is waited on no more, so every round but the last takes up another
flight that somebody gave up in the meantime, and there are never more rounds than such flights and one.
-/

namespace BearerTokens.Cache

def Unplanned (c : CallId) (lines : List Happening) : Prop := ∀ now d, .decided c now d ∉ lines

/-- In the lines the call went round once for each of the flights: it decided to wait on the flight, which was given
up before it could decide again. -/
inductive Rounds (c : CallId) : List Happening → List FlightId → Prop where
  | start {lines : List Happening} (hn : Unplanned c lines) : Rounds c lines []
  | again {earlier between rest : List Happening} {fs : List FlightId} {now : Instant} {f : FlightId}
      (hr : Rounds c earlier fs) (hf : f ∉ fs) (hb : Unplanned c between) (hn : Unplanned c rest) :
      Rounds c (earlier ++ .decided c now (.wait f) :: (between ++ .wrote f .cancelled :: rest)) (fs ++ [f])

/-- After its rounds the call is about to decide, or it has decided and not gone round again. -/
inductive Going (c : CallId) (lines : List Happening) (fs : List FlightId) : Prop where
  | round (hr : Rounds c lines fs)
  | decided {earlier after : List Happening} {now : Instant} {d : Decision} (hr : Rounds c earlier fs)
      (hlines : lines = earlier ++ .decided c now d :: after) (hn : Unplanned c after)
      (hd : ∀ f, d = .wait f → f ∉ fs)

def plans (c : CallId) (lines : List Happening) : List Decision :=
  lines.filterMap fun
    | .decided i _ d => if i = c then some d else none
    | _ => none

def givenUp (lines : List Happening) : List FlightId :=
  lines.filterMap fun
    | .wrote f .cancelled => some f
    | _ => none

def Decision.waited? : Decision → Option FlightId
  | .wait f => some f
  | _ => none

/-- The rounds that a call has begun: one for each decision, and one more if it is about to decide. -/
def State.rounds (s : State) (c : CallId) (lines : List Happening) : Nat :=
  (plans c lines).length + ((s.calls[c]?).any Call.isDeciding).toNat

variable {t : Timing} {s s' x : State} {c : CallId} {call : Call} {f : FlightId} {fs : List FlightId}
  {lines more : List Happening} {now : Instant} {d : Decision}

/-! ## Lines -/

theorem Unplanned.append (hl : Unplanned c lines) (hm : Unplanned c more) : Unplanned c (lines ++ more) := by
  intro now d h
  rcases List.mem_append.mp h with h | h
  · exact hl now d h
  · exact hm now d h

theorem plans_append (c : CallId) (lines more : List Happening) :
    plans c (lines ++ more) = plans c lines ++ plans c more := List.filterMap_append

theorem plans_decided (c : CallId) (now : Instant) (d : Decision) (lines : List Happening) :
    plans c (.decided c now d :: lines) = d :: plans c lines := by
  simp [plans]

theorem mem_plans : d ∈ plans c lines ↔ ∃ now, .decided c now d ∈ lines := by
  simp only [plans, List.mem_filterMap]
  constructor
  · rintro ⟨line, hl, hd⟩
    cases line with
    | decided i now e =>
      obtain ⟨rfl, rfl⟩ : i = c ∧ e = d := by simpa using hd
      exact ⟨now, hl⟩
    | _ => cases hd
  · rintro ⟨now, hl⟩
    exact ⟨_, hl, if_pos rfl⟩

theorem Unplanned.plans_eq (hn : Unplanned c lines) : plans c lines = [] := by
  apply List.eq_nil_iff_forall_not_mem.mpr
  intro d hd
  obtain ⟨now, hl⟩ := mem_plans.mp hd
  exact hn now d hl

theorem givenUp_append (lines more : List Happening) :
    givenUp (lines ++ more) = givenUp lines ++ givenUp more := List.filterMap_append

theorem mem_givenUp : f ∈ givenUp lines ↔ .wrote f .cancelled ∈ lines := by
  simp only [givenUp, List.mem_filterMap]
  constructor
  · rintro ⟨line, hl, hf⟩
    split at hf
    next => cases hf; exact hl
    next => cases hf
  · intro hl
    exact ⟨_, hl, rfl⟩

/-- The last decision of a call splits the lines in one way. -/
theorem last_decided_eq {before before' after after' : List Happening} {now' : Instant} {d' : Decision}
    (h : before ++ .decided c now d :: after = before' ++ .decided c now' d' :: after')
    (hn : Unplanned c after) (hn' : Unplanned c after') : before = before' ∧ d = d' ∧ after = after' := by
  rcases List.append_eq_append_iff.mp h with ⟨m, rfl, hm⟩ | ⟨m, rfl, hm⟩
  · cases m with
    | nil => cases hm; exact ⟨by simp, rfl, rfl⟩
    | cons line m =>
      obtain ⟨-, rfl⟩ := List.cons.inj hm
      exact absurd (by simp) (hn now' d')
  · cases m with
    | nil => cases hm; exact ⟨by simp, rfl, rfl⟩
    | cons line m =>
      obtain ⟨-, rfl⟩ := List.cons.inj hm
      exact absurd (by simp) (hn' now d)

/-! ## Rounds -/

theorem Rounds.append (hr : Rounds c lines fs) (hm : Unplanned c more) : Rounds c (lines ++ more) fs := by
  cases hr with
  | start hn => exact .start (hn.append hm)
  | again hr hf hb hn =>
    simp only [List.append_assoc, List.cons_append]
    exact .again hr hf hb (hn.append hm)

theorem Rounds.plans_eq (hr : Rounds c lines fs) : plans c lines = fs.map .wait := by
  induction hr with
  | start hn => exact hn.plans_eq
  | @again earlier between rest fs now f hr hf hb hn ih =>
    have hlater : Unplanned c (between ++ .wrote f .cancelled :: rest) := by
      apply hb.append
      intro now d h
      rcases List.mem_cons.mp h with h | h
      · cases h
      · exact hn now d h
    rw [plans_append, plans_decided, ih, hlater.plans_eq, List.map_append]
    rfl

theorem Rounds.nodup (hr : Rounds c lines fs) : fs.Nodup := by
  induction hr with
  | start => exact List.nodup_nil
  | again hr hf hb hn ih =>
    rw [← List.concat_eq_append]
    exact List.Nodup.concat hf ih

theorem Rounds.subset (hr : Rounds c lines fs) : fs ⊆ givenUp lines := by
  induction hr with
  | start => exact List.nil_subset _
  | again hr hf hb hn ih =>
    intro g hg
    apply mem_givenUp.mpr
    rcases List.mem_append.mp hg with hg | hg
    · exact List.mem_append_left _ (mem_givenUp.mp (ih hg))
    · obtain rfl := List.mem_singleton.mp hg
      simp

theorem Going.subset (hg : Going c lines fs) : fs ⊆ givenUp lines := by
  cases hg with
  | round hr => exact hr.subset
  | decided hr hlines =>
    rw [hlines, givenUp_append]
    exact List.subset_append_of_subset_left _ hr.subset

theorem Going.append (hg : Going c lines fs) (hm : Unplanned c more) : Going c (lines ++ more) fs := by
  cases hg with
  | round hr => exact .round (hr.append hm)
  | @decided earlier after now d hr hlines hn hd =>
    have hmore : lines ++ more = earlier ++ .decided c now d :: (after ++ more) := by
      rw [hlines, List.append_assoc, List.cons_append]
    exact .decided hr hmore (hn.append hm) hd

theorem Going.plans_eq (hg : Going c lines fs) : ∃ last : Option Decision,
    plans c lines = fs.map .wait ++ last.toList ∧ ∀ f, last = some (.wait f) → f ∉ fs := by
  cases hg with
  | round hr => exact ⟨none, by simp [hr.plans_eq], nofun⟩
  | @decided earlier after now d hr hlines hn hd =>
    refine ⟨some d, ?_, fun f hf => hd f (Option.some.inj hf)⟩
    rw [hlines, plans_append, plans_decided, hr.plans_eq, hn.plans_eq]
    rfl

theorem Going.nodup (hg : Going c lines fs) : fs.Nodup := by
  cases hg with
  | round hr | decided hr => exact hr.nodup

theorem Going.length_le (hg : Going c lines fs) : fs.length ≤ (givenUp lines).length :=
  (hg.nodup.subperm hg.subset).length_le

theorem Going.waited_nodup (hg : Going c lines fs) :
    ((plans c lines).filterMap Decision.waited?).Nodup := by
  obtain ⟨last, hplans, hlast⟩ := hg.plans_eq
  have hwaits : (fs.map .wait).filterMap Decision.waited? = fs := by
    rw [List.filterMap_map]
    exact List.filterMap_some
  rw [hplans, List.filterMap_append, hwaits]
  cases last with
  | none => simpa using hg.nodup
  | some d =>
    cases d with
    | wait f =>
      rw [show List.filterMap Decision.waited? (some (.wait f)).toList = [f] from rfl,
        ← List.concat_eq_append]
      exact List.Nodup.concat (hlast f rfl) hg.nodup
    | acquire | renew | serve =>
      rw [show List.filterMap Decision.waited? (some _).toList = [] from rfl, List.append_nil]
      exact hg.nodup

/-! ## Rows -/

/-- A call that is about to decide has finished its rounds. -/
theorem Reachable.going_deciding (hr : Reachable t s) (hh : s.history = x.history ++ lines)
    (hg : Going c lines fs) (hc : s.calls[c]? = some call) (hp : call.point = .deciding) :
    ∃ fs', Rounds c lines fs' := by
  cases hg with
  | round hrounds => exact ⟨fs, hrounds⟩
  | @decided earlier after now d hrounds hlines hn hd =>
    rw [hlines, ← List.append_assoc] at hh
    cases hr.course hc with
    | undecided hnone => exact absurd (by simp [hh]) (hnone now d)
    | @decided before now' d' hdecided hfollows =>
      obtain ⟨after', hsplit, hlast⟩ := hdecided.split
      obtain ⟨rfl, rfl, rfl⟩ := last_decided_eq (hh.symm.trans hsplit) hn hlast
      rw [hp] at hfollows
      cases hfollows with
      | @again f ho =>
        -- the flight was open when the call decided, so it was given up after that
        have hwrote : .wrote f .cancelled ∈ s.history := by
          rw [← mem_written, hr.written_eq, ho]
          exact List.mem_singleton_self _
        have hfound : written (x.history ++ earlier) f = [] := hdecided.found
        rw [hh] at hwrote
        rcases List.mem_append.mp hwrote with hwrote | hwrote
        · rw [← mem_written, hfound] at hwrote
          cases hwrote
        · rcases List.mem_cons.mp hwrote with hwrote | hwrote
          · cases hwrote
          · obtain ⟨between, rest, rfl⟩ := List.append_of_mem hwrote
            rw [hlines]
            refine ⟨fs ++ [f], .again hrounds (hd f rfl) ?_ ?_⟩
            · exact fun now d h => hn now d (List.mem_append_left _ h)
            · exact fun now d h => hn now d (by simp [h])

theorem Going.step {a : Action} (hr : Reachable t s) (hm : State.Moves t s a s')
    (hh : s.history = x.history ++ lines) (hg : Going c lines fs) :
    ∃ lines' fs', s'.history = x.history ++ lines' ∧ Going c lines' fs' := by
  by_cases ha : ∃ now, a = .decide c now
  · obtain ⟨now, rfl⟩ := ha
    obtain ⟨call, d, hc, hp, hd, -, hh'⟩ := hm.decided
    obtain ⟨fs', hrounds⟩ := hr.going_deciding hh hg hc hp
    refine ⟨lines ++ [.decided c now d], fs', by rw [hh', hh, List.append_assoc],
      .decided hrounds rfl (by simp [Unplanned]) ?_⟩
    rintro f rfl hf
    have hopen : written s.history f = [] := hd.found hr.written_eq
    have hwrote := mem_givenUp.mp (hrounds.subset hf)
    rw [hh, written_append, List.append_eq_nil_iff] at hopen
    rw [← mem_written, hopen.2] at hwrote
    cases hwrote
  · obtain ⟨added, hh', hn⟩ := hm.appends hr.matched fun now he => ha ⟨now, he⟩
    exact ⟨lines ++ added, fs, by rw [hh', hh, List.append_assoc], hg.append hn⟩

/-- The flight that a call decides to wait on is open, in the hands of another call. -/
theorem Reachable.wait_other (hr : Reachable t s) (hc : s.calls[c]? = some call)
    (hp : call.point = .deciding) {h' : Holding}
    (hd : s.holding.Decides s.outcome? s.flights.length call.context now h' (.wait f)) :
    ∃ other now', other ≠ c ∧ .decided other now' (.acquire f) ∈ s.history := by
  obtain ⟨-, hmode⟩ := hd.placed hr.sound (.refl s) nofun
  obtain ⟨flight, hf, hmode⟩ := Option.map_eq_some_iff.mp hmode
  have hopen : flight.outcome = none := by
    cases hd with
    | wait _ _ _ ho => simpa [State.outcome?, hf] using ho
  obtain ⟨other, hdrives, -⟩ := (hr.matched.owner hf hmode).mp hopen
  obtain ⟨holder, hother, hpoint⟩ := Option.bind_eq_some_iff.mp hdrives
  obtain ⟨now', hacquired⟩ := hr.driving_decided hother hpoint
  refine ⟨other, now', ?_, hacquired⟩
  rintro rfl
  cases hc.symm.trans hother
  rw [hp] at hpoint
  cases hpoint

theorem Reachable.waited_other (hr : Reachable t s) (hl : .decided c now (.wait f) ∈ s.history) :
    ∃ other now', other ≠ c ∧ .decided other now' (.acquire f) ∈ s.history := by
  refine hr.induct (P := fun y => .decided c now (.wait f) ∈ y.history →
    ∃ other now', other ≠ c ∧ .decided other now' (.acquire f) ∈ y.history) (by simp)
    (fun a y z hy hm ih => ?_) hl
  intro hl
  have hother : ∃ other now', other ≠ c ∧ .decided other now' (.acquire f) ∈ y.history := by
    cases hm.lineFrom hl with
    | same hl => exact ih hl
    | decided hc hp hd => exact hy.wait_other hc hp hd
    | walked _ hw hl => exact (hw.aside _ hl).elim
    | started _ _ _ hs hl => exact (hs.aside _ hl).elim
    | walkedRenewal _ hw hl => exact (hw.aside _ hl).elim
  obtain ⟨other, now', hne, hacquired⟩ := hother
  exact ⟨other, now', hne, hm.extends.history.subset hacquired⟩

/-- The call gave up the flight that it had opened: it was cancelled or dropped, or broken off. -/
def State.Abandons (s : State) (c : CallId) (f : FlightId) : Prop :=
  (∃ now, .decided c now (.acquire f) ∈ s.history) ∧ ∃ call exit, s.calls[c]? = some call ∧
    call.point = .done exit ∧ Call.Ends call.cancelled .cancelled exit

theorem Reachable.abandons (hr : Reachable t s) (hl : .decided c now (.acquire f) ∈ s.history)
    (ho : s.outcome? f = some .cancelled) : s.Abandons c f := by
  obtain ⟨call, hc⟩ : ∃ call, s.calls[c]? = some call := ⟨_, List.getElem?_eq_getElem (hr.decided_call hl)⟩
  have hfollows := hr.decided_follows hc hl nofun
  have hdone : call.point.drives? ≠ some (.synchronous, f) := by
    intro hdrives
    rw [← State.drives?_call hc] at hdrives
    obtain ⟨flight, hf, -, hopen⟩ := hr.matched.pending _ _ f hdrives
    simp [State.outcome?, hf, hopen] at ho
  refine ⟨⟨now, hl⟩, call, ?_⟩
  generalize hp : call.point = p at hfollows hdone
  cases hfollows with
  | opening | calling | asking | closing => exact absurd rfl hdone
  | @acquired _ o exit ho' he =>
    obtain rfl : o = .cancelled := Option.some.inj (ho'.symm.trans ho)
    exact ⟨exit, hc, rfl, he⟩

/-! ## The rounds of a call from its start -/

structure State.Progresses (s : State) (c : CallId) (lines : List Happening) : Prop where
  /-- No flight is waited on twice. -/
  once : ((plans c lines).filterMap Decision.waited?).Nodup
  going : ∃ fs, Going c lines fs ∧ (∀ f ∈ fs, ∃ other, other ≠ c ∧ s.Abandons other f) ∧
    ∀ call, s.calls[c]? = some call → call.point = .deciding → Rounds c lines fs
  bounded : s.rounds c lines ≤ 1 + (givenUp lines).length

theorem State.any_deciding_iff : (s.calls[c]?).any Call.isDeciding = true ↔
    ∃ call, s.calls[c]? = some call ∧ call.point = .deciding := by
  cases s.calls[c]? with
  | none => simp
  | some call => cases hp : call.point <;> simp [hp]

/-- The flights of the rounds were given up by other calls. -/
theorem Reachable.going_abandoned (hr : Reachable t s) (hh : s.history = x.history ++ lines)
    (hg : Going c lines fs) (hf : f ∈ fs) : ∃ other, other ≠ c ∧ s.Abandons other f := by
  have hlater : ∀ line ∈ lines, line ∈ s.history := by
    intro line hl
    rw [hh]
    exact List.mem_append_right _ hl
  obtain ⟨last, hplans, -⟩ := hg.plans_eq
  have hwait : .wait f ∈ plans c lines := by
    rw [hplans]
    exact List.mem_append_left _ (List.mem_map_of_mem hf)
  obtain ⟨now, hl⟩ := mem_plans.mp hwait
  obtain ⟨other, now', hne, hacquired⟩ := hr.waited_other (hlater _ hl)
  have hout : .cancelled ∈ written s.history f := mem_written.mpr (hlater _ (mem_givenUp.mp (hg.subset hf)))
  rw [hr.written_eq, Option.mem_toList] at hout
  exact ⟨other, hne, hr.abandons hacquired hout⟩

/-- A call goes round again only for a flight that another call has given up since it decided to wait on it, and
for no flight twice. -/
theorem Reachable.progresses {context : Context} {style : Style} {inside hasRuntime : Bool}
    {actions : List Action} (hx : Reachable t x)
    (h : (x.call context style inside hasRuntime).run? t actions = some s) :
    ∃ lines, s.history = x.history ++ lines ∧ s.Progresses x.calls.length lines := by
  have hstart : Reachable t (x.call context style inside hasRuntime) :=
    hx.step (a := .call context style inside hasRuntime) rfl
  have hgoing : Reachable t s ∧
      ∃ lines fs, s.history = x.history ++ lines ∧ Going x.calls.length lines fs := by
    refine State.run_induction (P := fun y => Reachable t y ∧
      ∃ lines fs, y.history = x.history ++ lines ∧ Going x.calls.length lines fs) h ?_ ?_
    · exact ⟨hstart, [], [], (List.append_nil _).symm, .round (.start (by simp [Unplanned]))⟩
    · rintro a y z _ hstep ⟨hy, lines, fs, hh, hg⟩
      exact ⟨hy.step hstep, hg.step hy (State.step_moves hstep) hh⟩
  obtain ⟨hr, lines, fs, hh, hg⟩ := hgoing
  refine ⟨lines, hh, ?_⟩
  by_cases hdeciding : ∃ call, s.calls[x.calls.length]? = some call ∧ call.point = .deciding
  · obtain ⟨call, hc, hp⟩ := hdeciding
    obtain ⟨fs, hrounds⟩ := hr.going_deciding hh hg hc hp
    have hg := Going.round hrounds
    refine ⟨hg.waited_nodup, ⟨fs, hg, fun f => hr.going_abandoned hh hg, fun _ _ _ => hrounds⟩, ?_⟩
    have hlength := hg.length_le
    rw [State.rounds, State.any_deciding_iff.mpr ⟨call, hc, hp⟩, hrounds.plans_eq, List.length_map,
      Bool.toNat_true]
    omega
  · refine ⟨hg.waited_nodup, ⟨fs, hg, fun f => hr.going_abandoned hh hg, ?_⟩, ?_⟩
    · exact fun call hc hp => absurd ⟨call, hc, hp⟩ hdeciding
    · obtain ⟨last, hplans, -⟩ := hg.plans_eq
      have hlast : last.toList.length ≤ 1 := by cases last <;> simp
      have hlength := hg.length_le
      rw [← State.any_deciding_iff, Bool.not_eq_true] at hdeciding
      rw [State.rounds, hdeciding, hplans, List.length_append, List.length_map, Bool.toNat_false]
      omega

def enteredRow : List Action := [.call {} .async false true, .decide 0 ⟨0⟩, .enter 0]

/-- Another one waits for it, finds that it is cancelled, and acquires. -/
def replannedRow : List Action :=
  [.decide 1 ⟨0⟩, .cancel 0, .withdraw 0, .close 0, .resume 1, .decide 1 ⟨0⟩, .enter 1]

theorem progresses_replannedRow : ∃ x s lines, State.run? {} {} enteredRow = some x ∧
    (x.call {} .async false true).run? {} replannedRow = some s ∧ s.history = x.history ++ lines ∧
    s.Progresses 1 lines ∧ plans 1 lines = [.wait 0, .acquire 1] ∧ givenUp lines = [0] := by
  obtain ⟨x, hx, hlength, s, h, hplans, hgiven⟩ : ∃ x, State.run? {} {} enteredRow = some x ∧
      x.calls.length = 1 ∧ ∃ s, (x.call {} .async false true).run? {} replannedRow = some s ∧
      plans 1 (s.history.drop x.history.length) = [.wait 0, .acquire 1] ∧
      givenUp (s.history.drop x.history.length) = [0] := ⟨_, rfl, rfl, _, rfl, rfl, rfl⟩
  obtain ⟨lines, hh, hprogress⟩ := Reachable.progresses ⟨_, hx⟩ h
  rw [hh, List.drop_left] at hplans hgiven
  rw [hlength] at hprogress
  exact ⟨x, s, lines, hx, h, hh, hprogress, hplans, hgiven⟩

end BearerTokens.Cache
