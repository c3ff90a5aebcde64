import BearerTokens.Proofs.Cache.Drivers
import BearerTokens.Proofs.Cache.Parts

/-! # What the history says of outcomes

An action adds one decision to the history, or the outcome of one flight, or lines that are neither.
The history has for each flight the outcome that the flight has and no other, so the lines before a
decision say what the call found when it decided.
-/

namespace BearerTokens.Cache

/-- Neither a decision nor an outcome. -/
def Happening.Aside : Happening → Prop
  | .decided _ _ _ | .wrote _ _ => False
  | _ => True

def written (history : List Happening) (f : FlightId) : List Outcome :=
  history.filterMap fun
    | .wrote g o => if g = f then some o else none
    | _ => none

@[simp] theorem written_append (first rest : List Happening) (f : FlightId) :
    written (first ++ rest) f = written first f ++ written rest f := by
  simp [written]

theorem mem_written {history : List Happening} {f : FlightId} {o : Outcome} :
    o ∈ written history f ↔ .wrote f o ∈ history := by
  simp only [written, List.mem_filterMap]
  constructor
  · rintro ⟨line, hl, ho⟩
    cases line with
    | wrote g p =>
      obtain ⟨rfl, rfl⟩ : g = f ∧ p = o := by simpa using ho
      exact hl
    | _ => cases ho
  · exact fun hl => ⟨_, hl, by simp⟩

theorem written_aside {lines : List Happening} (hl : ∀ line ∈ lines, line.Aside) (f : FlightId) :
    written lines f = [] := by
  rw [List.eq_nil_iff_forall_not_mem]
  exact fun o ho => hl _ (mem_written.mp ho)

theorem Call.Walks.aside {t : Timing} {s : State} {c : CallId} {call : Call} {a : Action} {p : Point}
    {lines : List Happening} {tally : Metrics → Metrics} (hw : call.Walks t s c a p lines tally) :
    ∀ line ∈ lines, line.Aside := by
  cases hw <;> simp [Happening.Aside]

theorem Renewal.Keeps.aside {r : RenewalId} {renewal : Renewal} {now : Instant} {delay : Duration}
    {reason : Reason} {error : String} {p : Point} {lines : List Happening}
    (hk : renewal.Keeps r now delay reason error p lines) : ∀ line ∈ lines, line.Aside := by
  cases hk <;> simp [Happening.Aside]

theorem Renewal.Walks.aside {t : Timing} {r : RenewalId} {renewal : Renewal} {a : Action} {p : Point}
    {lines : List Happening} (hw : renewal.Walks t r a p lines) : ∀ line ∈ lines, line.Aside := by
  cases hw with
  | refused _ hk =>
    intro line hl
    rcases List.mem_cons.mp hl with rfl | hl
    · trivial
    · exact hk.aside line hl
  | expire _ hk => exact hk.aside
  | _ => simp [Happening.Aside]

theorem Renewal.Starts.aside {t : Timing} {c : CallId} {call : Call} {r : RenewalId}
    {renewal : Renewal} {a : Action} {p : Point} {q : Call.Point} {lines : List Happening}
    (hs : renewal.Starts t c call r a p q lines) : ∀ line ∈ lines, line.Aside := by
  cases hs with
  | hosted => simp
  | alone hk => exact hk.aside

namespace State

variable {t : Timing} {s s' : State}

inductive HistoryFrom (s s' : State) : Action → Prop where
  | decided {c : CallId} {now : Instant} {d : Decision}
      (hh : s'.history = s.history ++ [.decided c now d]) (ho : s'.outcome? = s.outcome?) :
      HistoryFrom s s' (.decide c now)
  | wrote {a : Action} {f : FlightId} {o : Outcome} (hh : s'.history = s.history ++ [.wrote f o])
      (hn : s.outcome? f = none) (ho : s'.outcome? = Function.update s.outcome? f (some o)) :
      HistoryFrom s s' a
  | aside {a : Action} {lines : List Happening} (hl : ∀ line ∈ lines, line.Aside)
      (hh : s'.history = s.history ++ lines) (ho : s'.outcome? = s.outcome?) : HistoryFrom s s' a

theorem outcome?_congr (hf : s'.flights = s.flights) : s'.outcome? = s.outcome? := by
  funext f
  simp [outcome?, hf]

theorem outcome?_follow (style : Style) (c : CallId) (context : Context) (d : Decision) :
    (s.follow style c context d).outcome? = s.outcome? := by
  funext f
  cases hm : d.opens? with
  | none => simp [outcome?, follow_flights, hm]
  | some m =>
    simp only [outcome?, follow_flights, hm, Option.map_some, Option.toList_some, getElem?_concat]
    split
    next he => simp [he]
    next => rfl

/-- What a driver writes is the outcome of its flight, and no other outcome changes. -/
theorem Matched.outcome?_written {q : Requester} {m : Mode} {f : FlightId} {o : Outcome}
    (hs : s.Matched) (hq : s.drives? q = some (m, f))
    (hf : s'.flights = s.flights.modify f (·.write o)) :
    s.outcome? f = none ∧ s'.outcome? = Function.update s.outcome? f (some o) := by
  obtain ⟨flight, hfl, -, ho⟩ := hs.pending q m f hq
  refine ⟨by simp [outcome?, hfl, ho], ?_⟩
  funext g
  by_cases hg : g = f
  · subst hg
    rw [Function.update_self, hs.outcome_written hq hf]
  · rw [Function.update_of_ne hg]
    simp [outcome?, hf, List.getElem?_modify_ne _ _ (Ne.symm hg)]

theorem Moves.historyFrom {a : Action} (hs : s.Matched) (h : Moves t s a s') :
    HistoryFrom s s' a := by
  cases h with
  | call | cancel => exact .aside (List.forall_mem_nil _) (List.append_nil _).symm rfl
  | @decide c call now holding d hc hp hd =>
    refine .decided (d := d) ?_ ?_
    · rw [follow_history, record]
    · rw [outcome?_follow]
      exact outcome?_congr rfl
  | walk hc hw => exact .aside hw.aside rfl (outcome?_congr rfl)
  | @close c call f o exit hc hp =>
    have hf : (s.writeFlight f o).flights = s.flights.modify f (·.write o) := rfl
    obtain ⟨hn, ho⟩ := hs.outcome?_written (drives?_closing hc hp) hf
    exact .wrote rfl hn ho
  | launch hc hp hr hstart => exact .aside hstart.aside rfl (outcome?_congr rfl)
  | walkRenewal hr hw => exact .aside hw.aside rfl (outcome?_congr rfl)
  | @closeRenewal r renewal o ending hr hp =>
    have hq : s.drives? (.renewal r) = some (.background, renewal.flight) := by
      simp [drives?_renewal hr, Renewal.drives?, hp]
    have hf : (s.writeFlight renewal.flight o).flights =
        s.flights.modify renewal.flight (·.write o) := rfl
    obtain ⟨hn, ho⟩ := hs.outcome?_written hq hf
    exact .wrote rfl hn ho
  | @countRenewal r renewal ending =>
    have hflights : (s.countEnding ending).flights = s.flights := (countEnding_eq ending).2.2.1
    obtain ⟨entry, hh⟩ :
        ∃ entry, (s.countEnding ending).history = s.history ++ [.reported entry] := by
      cases ending <;> exact ⟨_, rfl⟩
    have hl : ∀ line ∈ [Happening.reported entry], line.Aside := by simp [Happening.Aside]
    exact .aside hl hh (outcome?_congr hflights)

end State

variable {t : Timing} {s s' : State}

/-- The history has the outcome of each flight, once. -/
theorem Reachable.written_eq (hr : Reachable t s) (f : FlightId) :
    written s.history f = (s.outcome? f).toList := by
  refine hr.induct (P := fun x => ∀ f, written x.history f = (x.outcome? f).toList)
    (fun f => by simp [written, State.outcome?]) (fun a x y hx hm ih => ?_) f
  intro f
  cases hm.historyFrom hx.matched with
  | decided hh ho => rw [hh, ho, written_append, ih f]; simp [written]
  | @wrote _ g o hh hn ho =>
    rw [hh, ho, written_append, ih f]
    by_cases hg : g = f
    · subst hg
      simp [hn, written]
    · simp [Function.update_of_ne (Ne.symm hg), written, hg]
  | aside hl hh ho => rw [hh, ho, written_append, ih f, written_aside hl, List.append_nil]

/-- Only a call's own decision adds one of its decisions. -/
theorem State.Moves.decided_line {a : Action} (hm : State.Moves t s a s') {c : CallId} {now : Instant}
    {d : Decision} (hl : Happening.decided c now d ∈ s'.history) :
    Happening.decided c now d ∈ s.history ∨ a = .decide c now := by
  cases hm.lineFrom hl with
  | same hl => exact .inl hl
  | decided => exact .inr rfl
  | walked _ hw hl => exact (hw.aside _ hl).elim
  | started _ _ _ hs hl => exact (hs.aside _ hl).elim
  | walkedRenewal _ hw hl => exact (hw.aside _ hl).elim

theorem Reachable.decided_call (hr : Reachable t s) {c : CallId} {now : Instant} {d : Decision}
    (hl : Happening.decided c now d ∈ s.history) : c < s.calls.length := by
  refine hr.induct (P := fun x => Happening.decided c now d ∈ x.history → c < x.calls.length)
    (by simp) (fun a x y _ hm ih => ?_) hl
  intro hl
  have hlt : ∃ call, x.calls[c]? = some call := by
    rcases hm.decided_line hl with hl | rfl
    · exact ⟨_, List.getElem?_eq_getElem (ih hl)⟩
    · obtain ⟨call, -, hc, -⟩ := hm.decided
      exact ⟨call, hc⟩
  obtain ⟨call, hc⟩ := hlt
  obtain ⟨call', hc', -⟩ := hm.extends.call c call hc
  exact (List.getElem?_eq_some_iff.mp hc').1

end BearerTokens.Cache
