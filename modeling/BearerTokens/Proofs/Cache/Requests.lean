import BearerTokens.Proofs.Cache.Parts

/-! # Requests to the credential

The history has a line for each request.  A call makes one only from the point where it has reported
its attempt, so a call that has not come that far has made none; a call or renewal that waits for an
answer has made one in its own context.
-/

namespace BearerTokens.Cache

def Call.Point.Requested : Call.Point → Prop
  | .asking _ | .closing _ _ _ | .done _ => True
  | _ => False

theorem Call.Walks.requested {t : Timing} {s : State} {c : CallId} {call : Call} {a : Action}
    {p : Point} {lines : List Happening} {tally : Metrics → Metrics}
    (hw : call.Walks t s c a p lines tally) (hp : call.point.Requested) : p.Requested := by
  cases hw with
  | withdraw | withdrawEarly | withdrawWaiting | share | finish | dropIdle => trivial
  | ask | answered | unfit | refused | crash | drop => trivial
  | enter hq | again hq =>
    rw [hq] at hp
    exact hp.elim

variable {t : Timing} {s s' : State}

/-- The action that makes a call's request is its own. -/
theorem State.Moves.asked {a : Action} (h : State.Moves t s a s') {c : CallId} {context : Context}
    (hl : Happening.asked (.call c) context ∈ s'.history) :
    Happening.asked (.call c) context ∈ s.history ∨
      a = .ask c ∧ ∃ call f, s'.calls[c]? = some call ∧ call.point = .asking f := by
  cases h.lineFrom hl with
  | same hl => exact .inl hl
  | walked _ hw hl hc' =>
    cases hw with
    | ask =>
      obtain ⟨rfl, -⟩ : c = _ ∧ context = _ := by simpa using hl
      exact .inr ⟨rfl, _, _, hc', rfl⟩
    | _ => simp at hl
  | started _ _ _ hs hl =>
    cases hs with
    | hosted => simp at hl
    | alone hk => cases hk <;> simp at hl
  | walkedRenewal _ hw hl =>
    cases hw with
    | refused _ hk | expire _ hk => cases hk <;> simp at hl
    | _ => simp at hl

/-- A call with a request in the history has come to the credential. -/
theorem Reachable.requested (hr : Reachable t s) {c : CallId} {context : Context}
    (hl : Happening.asked (.call c) context ∈ s.history) :
    ∃ call, s.calls[c]? = some call ∧ call.point.Requested := by
  refine hr.induct (P := fun x => Happening.asked (.call c) context ∈ x.history →
    ∃ call, x.calls[c]? = some call ∧ call.point.Requested) (by simp) (fun a x y _ hm ih => ?_) hl
  intro hl
  rcases hm.asked hl with hl | ⟨-, call, f, hc, hp⟩
  · obtain ⟨call, hc, hp⟩ := ih hl
    obtain ⟨call', hc', -⟩ := hm.extends.call c call hc
    refine ⟨call', hc', ?_⟩
    cases hm.callFrom hc' with
    | same hi => cases hc.symm.trans hi; exact hp
    | added => simp at hc
    | flagged hi => cases hc.symm.trans hi; exact hp
    | decided hi hd => cases hc.symm.trans hi; rw [hd] at hp; exact hp.elim
    | walked hi hw => cases hc.symm.trans hi; exact hw.requested hp
    | closed => trivial
    | launched hi hd => cases hc.symm.trans hi; rw [hd] at hp; exact hp.elim
  · exact ⟨call, hc, by rw [hp]; trivial⟩

/-- A call that decides has made no request, nor does it make one by deciding. -/
theorem Reachable.decided_unasked (hr : Reachable t s) {c : CallId} {now : Instant}
    (hm : State.Moves t s (.decide c now) s') (context : Context) :
    Happening.asked (.call c) context ∉ s'.history := by
  intro hl
  obtain ⟨call, d, hc, hp, -, -, hh⟩ := hm.decided
  have hold : Happening.asked (.call c) context ∈ s.history := by simpa [hh] using hl
  obtain ⟨call', hc', hreq⟩ := hr.requested hold
  cases hc.symm.trans hc'
  rw [hp] at hreq
  exact hreq

/-- A call that waits for an answer has asked in its own context. -/
theorem Reachable.asking (hr : Reachable t s) {c : CallId} {call : Call} {f : FlightId}
    (hc : s.calls[c]? = some call) (hp : call.point = .asking f) :
    Happening.asked (.call c) call.context ∈ s.history := by
  refine hr.induct (P := fun x => ∀ call f, x.calls[c]? = some call → call.point = .asking f →
    Happening.asked (.call c) call.context ∈ x.history) (by simp) (fun a x y hx hm ih => ?_)
    call f hc hp
  intro call f hc hp
  have hsub := hm.extends.history.subset
  cases hm.callFrom hc with
  | same hi => exact hsub (ih call f hi hp)
  | added hq => rcases hq with rfl | ⟨fault, rfl⟩ <;> cases hp
  | @flagged _ before hi => exact hsub (ih before f hi hp)
  | @decided _ _ _ d => cases d <;> cases hp
  | walked hi hw hh =>
    rw [hh]
    cases hw with
    | ask => simp
    | _ => cases hp
  | closed => cases hp
  | launched _ _ _ hs => cases hs <;> cases hp

/-- A renewal that waits for an answer has asked in its own context. -/
theorem Reachable.askingRenewal (hr : Reachable t s) {r : RenewalId} {renewal : Renewal}
    (h : s.renewals[r]? = some renewal) (hp : renewal.point = .asking) :
    Happening.asked (.renewal r) renewal.context ∈ s.history := by
  refine hr.induct (P := fun x => ∀ renewal : Renewal, x.renewals[r]? = some renewal →
    renewal.point = .asking → Happening.asked (.renewal r) renewal.context ∈ x.history) (by simp)
    (fun a x y hx hm ih => ?_) renewal h hp
  intro renewal h hp
  have hsub := hm.extends.history.subset
  cases hm.renewalFrom h with
  | same hi => exact hsub (ih renewal hi hp)
  | started _ _ _ hs =>
    cases hs with
    | hosted => cases hp
    | alone hk => cases hk <;> cases hp
  | walked hi hw hh =>
    rw [hh]
    cases hw with
    | ask => simp
    | refused _ hk | expire _ hk => cases hk <;> cases hp
    | _ => cases hp
  | closed => cases hp
  | counted => cases hp

end BearerTokens.Cache
