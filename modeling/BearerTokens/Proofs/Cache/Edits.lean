import BearerTokens.Proofs.Cache.Runs

/-! # One call beside the others

What the others do reads nothing of a call and changes nothing of it, so it comes out the same
whatever that call is replaced by.
-/

namespace BearerTokens.Cache

def Action.Of (c : CallId) : Action → Bool
  | .cancel i | .decide i _ | .enter i | .ask i | .answer i _ | .crash i | .withdraw i | .close i
  | .resume i | .launch i | .settle i _ | .finish i | .drop i => i == c
  | _ => false

namespace State

variable {t : Timing} {s s' : State} {c i : CallId} {a : Action} {g : Call → Call}

def editCall (s : State) (c : CallId) (g : Call → Call) : State :=
  { s with calls := s.calls.modify c g }

section Frame

variable (s c g)

@[simp] theorem editCall_renewals : (s.editCall c g).renewals = s.renewals := rfl

@[simp] theorem editCall_outcome? : (s.editCall c g).outcome? = s.outcome? := rfl

@[simp] theorem editCall_record (lines : List Happening) :
    (s.editCall c g).record lines = (s.record lines).editCall c g := rfl

@[simp] theorem editCall_report (entries : List Entry) :
    (s.editCall c g).report entries = (s.report entries).editCall c g := rfl

@[simp] theorem editCall_count (tally : Metrics → Metrics) :
    (s.editCall c g).count tally = (s.count tally).editCall c g := rfl

@[simp] theorem editCall_openFlight (mode : Mode) (context : Context) :
    (s.editCall c g).openFlight mode context = (s.openFlight mode context).editCall c g := rfl

@[simp] theorem editCall_writeFlight (f : FlightId) (o : Outcome) :
    (s.editCall c g).writeFlight f o = (s.writeFlight f o).editCall c g := rfl

@[simp] theorem editCall_startRenewal (renewal : Renewal) :
    (s.editCall c g).startRenewal renewal = (s.startRenewal renewal).editCall c g := rfl

@[simp] theorem editCall_moveRenewal (r : RenewalId) (p : Renewal.Point) :
    (s.editCall c g).moveRenewal r p = (s.moveRenewal r p).editCall c g := rfl

@[simp] theorem editCall_countEnding (ending : Ending) :
    (s.editCall c g).countEnding ending = (s.countEnding ending).editCall c g := by
  cases ending <;> rfl

@[simp] theorem editCall_keepPrevious (r : RenewalId) (renewal : Renewal) (now : Instant)
    (delay : Duration) (reason : Reason) (error : String) :
    (s.editCall c g).keepPrevious r renewal now delay reason error =
      (s.keepPrevious r renewal now delay reason error).editCall c g := by
  unfold keepPrevious
  split <;> rfl

end Frame

theorem editCall_calls (hi : i ≠ c) : (s.editCall c g).calls[i]? = s.calls[i]? :=
  List.getElem?_modify_ne _ _ (Ne.symm hi)

theorem editCall_own : (s.editCall c g).calls[c]? = s.calls[c]?.map g := by
  simp [editCall]

theorem editCall_moveCall (hi : i ≠ c) (p : Call.Point) :
    (s.editCall c g).moveCall i p = (s.moveCall i p).editCall c g := by
  simp only [moveCall, editCall, List.modify_modify_ne _ _ _ (Ne.symm hi)]

theorem editCall_cancel (hi : i ≠ c) : (s.editCall c g).cancel i = (s.cancel i).editCall c g := by
  simp only [cancel, editCall, List.modify_modify_ne _ _ _ (Ne.symm hi)]

theorem modify_append {α : Type} (l l' : List α) (f : α → α) {i : Nat} (hi : i < l.length) :
    (l ++ l').modify i f = l.modify i f ++ l' := by
  refine List.ext_getElem? fun k => ?_
  rcases Nat.lt_or_ge k l.length with hk | hk
  · have hkm : k < (l.modify i f).length := by simpa using hk
    rw [List.getElem?_append_left hkm, List.getElem?_modify, List.getElem?_modify,
      List.getElem?_append_left hk]
  · have hne : i ≠ k := by omega
    simp [hne, List.getElem?_append_right, hk]

theorem editCall_call (hc : c < s.calls.length) (context : Context) (style : Style)
    (inside hasRuntime : Bool) : (s.editCall c g).call context style inside hasRuntime =
      (s.call context style inside hasRuntime).editCall c g := by
  simp only [call, editCall, modify_append _ _ _ hc]

theorem editCall_follow
    (hmove : ∀ (x : State) (p : Call.Point),
      (x.editCall c g).moveCall i p = (x.moveCall i p).editCall c g)
    (style : Style) (context : Context) (d : Decision) :
    (s.editCall c g).follow style i context d = (s.follow style i context d).editCall c g := by
  cases style <;> cases d <;> simp [follow, followTask, followThread, hmove]

/-- What others do does not depend on the call. -/
theorem step_editCall (ha : a.Of c = false) (hc : c < s.calls.length) :
    (s.editCall c g).step t a = (s.step t a).map (·.editCall c g) := by
  have hne : ∀ {i}, (i == c) = false → i ≠ c := fun h => by simpa using h
  cases a with
  | call context style inside hasRuntime => exact congrArg some (editCall_call hc ..)
  | cancel i => exact congrArg some (editCall_cancel (hne ha))
  | decide i now =>
    simp only [step, decideCall, editCall_calls (hne ha)]
    split
    · rfl
    next context style _ _ _ _ _ =>
      let decided := s.holding.decide s.outcome? s.flights.length context now
      let held := { s with holding := decided.1 }.record [.decided i now decided.2]
      have hfollow : (held.editCall c g).follow style i context decided.2 =
          (held.follow style i context decided.2).editCall c g :=
        editCall_follow (fun _ => editCall_moveCall (hne ha)) ..
      exact congrArg some hfollow
    · rfl
  | answer i answer =>
    simp only [step, answerCall, editCall_calls (hne ha)]
    split
    · cases answer with
      | error => simp [editCall_moveCall (hne ha)]
      | ok token =>
        simp only []
        split <;> simp [editCall_moveCall (hne ha)]
    · rfl
  | resume i =>
    simp only [step, resumeCall, editCall_calls (hne ha), editCall_outcome?]
    split
    next f _ => cases s.outcome? f <;> simp [editCall_moveCall (hne ha)]
    · rfl
  | launch i =>
    simp only [step, launchCall, editCall_calls (hne ha)]
    split
    · split
      · split <;> simp [editCall_moveCall (hne ha)]
      · rfl
    · rfl
  | settle i now =>
    simp only [step, settleCall, editCall_calls (hne ha), editCall_renewals]
    split
    · split
      · split <;> simp [editCall_moveCall (hne ha)]
      · rfl
    · rfl
  | finish i =>
    simp only [step, finishCall, editCall_calls (hne ha), editCall_renewals]
    split
    · split <;> simp [editCall_moveCall (hne ha)]
    · rfl
  | answerRenewal r answer now =>
    simp only [step, answerRenewal, editCall_renewals]
    split
    · split
      · cases answer with
        | error => simp
        | ok token =>
          simp only []
          split <;> simp
      · rfl
    · rfl
  | expire r now =>
    simp only [step, expireRenewal, editCall_renewals]
    split
    · split <;> simp
    · rfl
  | enter | ask | crash | withdraw | close | drop =>
    simp only [step, enterCall, askCall, crashCall, withdrawCall, closeCall, dropCall,
      editCall_calls (hne ha)]
    split <;> simp [editCall_moveCall (hne ha)]
  | «begin» | askRenewal | closeRenewal | countRenewal | abandon =>
    simp only [step, beginRenewal, State.askRenewal, closeRenewal, countRenewal, abandonRenewal,
      editCall_renewals]
    split <;> simp

end State

end BearerTokens.Cache
