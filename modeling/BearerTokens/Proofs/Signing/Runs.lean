import BearerTokens.Proofs.Cache.Parts
import BearerTokens.Proofs.Signing.Moves
import Mathlib.Data.List.Induction

/-! # Rows of actions of a policy

Sends keep their numbers and requests, and the history tells of each in order.  What a send becomes by
one action is either what it was, or one step of its own together with the lines about it.
-/

namespace BearerTokens.Signing

open Http

variable {Memory : Type}

def Exchange.id : Exchange → SendId
  | .attempted i _ _ _ | .handed i _ _ | .delivered i _ _ | .judged i _ _ => i

theorem Send.Walks.id_eq {cache : Cache.State} {i : SendId} {send : Send} {a : Action} {q : Point}
    {lines : List Exchange} (hw : send.Walks cache i a q lines) : ∀ e ∈ lines, e.id = i := by
  cases hw <;> simp [Exchange.id]

namespace State

variable {h : Responder Memory} {t : Timing} {p : Policy} {s s' : State Memory} {i j : SendId}

def linesOf (s : State Memory) (i : SendId) : List Exchange := s.history.filter (·.id == i)

theorem mem_linesOf {e : Exchange} : e ∈ s.linesOf i ↔ e ∈ s.history ∧ e.id = i := by
  simp [linesOf]

theorem linesOf_append {lines : List Exchange} (hs : s'.history = s.history ++ lines) (i : SendId) :
    s'.linesOf i = s.linesOf i ++ lines.filter (·.id == i) := by
  rw [linesOf, hs, List.filter_append]
  rfl

theorem linesOf_own {lines : List Exchange} (hs : s'.history = s.history ++ lines)
    (hown : ∀ e ∈ lines, e.id = i) : s'.linesOf i = s.linesOf i ++ lines := by
  rw [linesOf_append hs, List.filter_eq_self.mpr]
  simpa using hown

theorem linesOf_other {lines : List Exchange} (hs : s'.history = s.history ++ lines)
    (hown : ∀ e ∈ lines, e.id = i) (hj : j ≠ i) : s'.linesOf j = s.linesOf j := by
  have hnone : lines.filter (·.id == j) = [] := by
    refine List.filter_eq_nil_iff.mpr fun e he => ?_
    simpa [hown e he] using Ne.symm hj
  rw [linesOf_append hs, hnone, List.append_nil]

/-! ## What a send comes from -/

inductive SendFrom (h : Responder Memory) (p : Policy) (s s' : State Memory) :
    Action → SendId → Send → List Exchange → Prop where
  | same {a : Action} {i : SendId} {send : Send} (flag : Bool) (hi : s.sends[i]? = some send) :
      SendFrom h p s s' a i { send with cancelled := flag } []
  | added {request : Request} {inside hasRuntime : Bool} :
      SendFrom h p s s' (.send request inside hasRuntime) s.sends.length
        { request, inside, hasRuntime } []
  | walked {a : Action} {i : SendId} {send : Send} {q : Point} {lines : List Exchange}
      (hi : s.sends[i]? = some send) (hw : send.Walks s.cache i a q lines) :
      SendFrom h p s s' a i { send with point := q } lines
  | signed {i : SendId} {send : Send} {context : Context} {c : Cache.CallId} {call : Cache.Call}
      (hi : s.sends[i]? = some send) (hp : send.point = .starting)
      (hs : insecure? send.request = none)
      (hb : context = h.before s.memory send.request (p.contextFor send.request))
      (hc : s'.cache.calls[c]? = some call) (hx : call.context = context) :
      SendFrom h p s s' (.sign i) i
        { send with contexts := send.contexts ++ [context], point := .acquiring false c }
        [.attempted i false context c]
  | declined {i : SendId} {send : Send} {response : Response} {context : Context}
      (hi : s.sends[i]? = some send) (hp : send.point = .judging response)
      (hl : send.contexts.getLast? = some context)
      (hj : (h.answer s.memory (duplicate send.request) response context).2 = none) :
      SendFrom h p s s' (.judge i) i { send with point := .done (.ok response) }
        [.judged i response none]
  | answered {i : SendId} {send : Send} {response : Response} {context next : Context}
      {c : Cache.CallId} {call : Cache.Call} (hi : s.sends[i]? = some send)
      (hp : send.point = .judging response) (hl : send.contexts.getLast? = some context)
      (hj : (h.answer s.memory (duplicate send.request) response context).2 = some next)
      (hc : s'.cache.calls[c]? = some call) (hx : call.context = next) :
      SendFrom h p s s' (.judge i) i
        { send with contexts := send.contexts ++ [next], point := .acquiring true c }
        [.judged i response (some next), .attempted i true next c]

theorem move_sends {q : Point} {send : Send} (hj : (s.move i q).sends[j]? = some send) :
    (j ≠ i ∧ s.sends[j]? = some send) ∨
      j = i ∧ ∃ before, s.sends[i]? = some before ∧ send = { before with point := q } := by
  simp only [move, List.getElem?_modify] at hj
  obtain ⟨before, hb, rfl⟩ := Option.map_eq_some_iff.mp hj
  split
  next he => subst he; exact .inr ⟨rfl, before, hb, rfl⟩
  next he => exact .inl ⟨Ne.symm he, hb⟩

theorem attempt_sends {before send : Send} {context : Context} {again : Bool}
    (hi : s.sends[i]? = some before) (hj : (s.attempt i before context again).sends[j]? = some send) :
    (j ≠ i ∧ s.sends[j]? = some send) ∨ j = i ∧
      send = { before with contexts := before.contexts ++ [context],
                           point := .acquiring again s.cache.calls.length } := by
  have hlt : i < s.sends.length := (List.getElem?_eq_some_iff.mp hi).1
  by_cases he : j = i
  · subst he
    refine .inr ⟨rfl, ?_⟩
    simpa [attempt, record, hlt] using hj.symm
  · have hother : (s.attempt i before context again).sends[j]? = s.sends[j]? :=
      List.getElem?_set_ne (Ne.symm he)
    exact .inl ⟨he, hother ▸ hj⟩

/-- An attempt is a new call for its context. -/
theorem attempt_call (s : State Memory) (i : SendId) (send : Send) (context : Context)
    (again : Bool) : ∃ call : Cache.Call,
    (s.attempt i send context again).cache.calls[s.cache.calls.length]? = some call ∧
      call.context = context := by
  cases hc : send.cancelled <;>
    simp [attempt, record, hc, Cache.State.call, Cache.State.cancel, Cache.Style.refusal?]

theorem attempt_retains (s : State Memory) (i : SendId) (send : Send) (context : Context)
    (again : Bool) : s.cache.Retains (s.attempt i send context again).cache := by
  have hcall : s.cache.Retains (s.cache.call context .async send.inside send.hasRuntime) :=
    (Cache.State.Moves.call (t := {})).retains
  unfold attempt
  cases send.cancelled with
  | false => exact hcall
  | true => exact hcall.trans (Cache.State.Moves.cancel (t := {})).retains

theorem cancelSend_retains (s : State Memory) (i : SendId) :
    s.cache.Retains (s.cancelSend i).cache := by
  simp only [cancelSend]
  split
  · exact (Cache.State.Moves.cancel (t := {})).retains
  · exact .refl _

theorem cancelSend_eq (s : State Memory) (i : SendId) : (s.cancelSend i).history = s.history ∧
    (s.cancelSend i).memory = s.memory ∧ (s.cancelSend i).sends =
      s.sends.modify i fun send => { send with cancelled := true } := by
  simp only [cancelSend]
  split <;> exact ⟨rfl, rfl, rfl⟩

theorem Moves.retains {a : Action} (hm : Moves h t p s a s') : s.cache.Retains s'.cache := by
  cases hm with
  | send | walk | decline => exact .refl _
  | cancel => exact s.cancelSend_retains _
  | @sign i send => exact attempt_retains { s with memory := _ } i send _ false
  | @answer i send response _ next memory =>
    exact attempt_retains ({ s with memory, cache := s.cache.report [.answering next] }.record
      (.judged i response (some next))) i send next true
  | cache hc => exact (Cache.State.step_moves hc).retains

/-- Every send of a later state comes from an earlier one or is new, and the history tells how. -/
theorem Moves.sendFrom {a : Action} (hm : Moves h t p s a s') {send : Send}
    (hj : s'.sends[j]? = some send) : ∃ lines, SendFrom h p s s' a j send lines ∧
      s'.linesOf j = s.linesOf j ++ lines := by
  have hsame {flag : Bool} {before : Send} (hb : s.sends[j]? = some before)
      (hs : s'.linesOf j = s.linesOf j) :
      ∃ lines, SendFrom h p s s' a j { before with cancelled := flag } lines ∧
        s'.linesOf j = s.linesOf j ++ lines :=
    ⟨[], .same flag hb, by rw [hs, List.append_nil]⟩
  cases hm with
  | send =>
    simp only [Cache.State.getElem?_concat] at hj
    split at hj
    next he =>
      cases hj
      exact he ▸ ⟨[], .added, (List.append_nil _).symm⟩
    next => exact hsame hj rfl
  | @cancel i =>
    obtain ⟨hh, -, hsends⟩ := s.cancelSend_eq i
    rw [hsends, List.getElem?_modify] at hj
    obtain ⟨before, hb, rfl⟩ := Option.map_eq_some_iff.mp hj
    have hlines : (s.cancelSend i).linesOf j = s.linesOf j := by rw [linesOf, hh, linesOf]
    split
    · exact hsame hb hlines
    · exact hsame hb hlines
  | walk hi hw =>
    rcases move_sends hj with ⟨hne, hb⟩ | ⟨rfl, before, hb, rfl⟩
    · exact hsame hb (linesOf_other rfl hw.id_eq hne)
    · cases hi.symm.trans hb
      exact ⟨_, .walked hi hw, linesOf_own rfl hw.id_eq⟩
  | @sign i before context hi hp hs hc =>
    obtain ⟨call, hcall, hx⟩ := attempt_call
      { s with memory := h.noted s.memory before.request context } i before
      (h.before s.memory before.request context) false
    rcases attempt_sends hi hj with ⟨hne, hb⟩ | ⟨rfl, rfl⟩
    · exact hsame hb (linesOf_other (i := i) rfl (by simp [Exchange.id]) hne)
    · exact ⟨_, .signed hi hp hs (hc ▸ rfl) hcall hx, linesOf_own rfl (by simp [Exchange.id])⟩
  | @decline i before response context memory hi hp hl hj' =>
    rcases move_sends hj with ⟨hne, hb⟩ | ⟨rfl, before, hb, rfl⟩
    · exact hsame hb (linesOf_other (i := i) rfl (by simp [Exchange.id]) hne)
    · cases hi.symm.trans hb
      exact ⟨_, .declined hi hp hl (by rw [hj']), linesOf_own rfl (by simp [Exchange.id])⟩
  | @answer i before response context next memory hi hp hl hj' =>
    obtain ⟨call, hcall, hx⟩ := attempt_call ({ s with memory, cache := s.cache.report _ }.record
      (.judged i response (some next))) i before next true
    have hhistory : ((({ s with memory, cache := s.cache.report [.answering next] }.record
        (.judged i response (some next))).attempt i before next true).history) = s.history ++
          [.judged i response (some next), .attempted i true next s.cache.calls.length] := by
      simp [attempt, record, Cache.State.report, Cache.State.record]
    rcases attempt_sends hi hj with ⟨hne, hb⟩ | ⟨rfl, rfl⟩
    · exact hsame hb (linesOf_other hhistory (by simp [Exchange.id]) hne)
    · exact ⟨_, .answered hi hp hl (by rw [hj']) hcall hx,
        linesOf_own hhistory (by simp [Exchange.id])⟩
  | cache => exact hsame hj rfl

/-- Of a send that is still to come the history tells nothing. -/
theorem Moves.unsent {a : Action} (hm : Moves h t p s a s') (hj : s'.sends.length ≤ j) :
    s.sends.length ≤ j ∧ s'.linesOf j = s.linesOf j := by
  have hne {i : SendId} {send : Send} (hi : s.sends[i]? = some send) (hle : s.sends.length ≤ j) :
      j ≠ i := by
    have hlt : i < s.sends.length := (List.getElem?_eq_some_iff.mp hi).1
    exact Nat.ne_of_gt (Nat.lt_of_lt_of_le hlt hle)
  cases hm with
  | send =>
    have hle : s.sends.length + 1 ≤ j := by simpa using hj
    exact ⟨by omega, rfl⟩
  | @cancel i =>
    obtain ⟨hh, -, hsends⟩ := s.cancelSend_eq i
    rw [hsends, List.length_modify] at hj
    exact ⟨hj, by rw [linesOf, hh, linesOf]⟩
  | walk hi hw =>
    have hle : s.sends.length ≤ j := by simpa [move, note] using hj
    exact ⟨hle, linesOf_other rfl hw.id_eq (hne hi hle)⟩
  | @sign i before _ hi =>
    have hle : s.sends.length ≤ j := by simpa [attempt, record] using hj
    exact ⟨hle, linesOf_other (i := i) rfl (by simp [Exchange.id]) (hne hi hle)⟩
  | @decline i _ _ _ _ hi =>
    have hle : s.sends.length ≤ j := by simpa [move, record] using hj
    exact ⟨hle, linesOf_other (i := i) rfl (by simp [Exchange.id]) (hne hi hle)⟩
  | @answer i _ response _ next _ hi =>
    have hle : s.sends.length ≤ j := by simpa [attempt, record] using hj
    refine ⟨hle, ?_⟩
    rw [linesOf, attempt, record, record, List.filter_append, List.filter_append]
    simp [linesOf, Exchange.id, Ne.symm (hne hi hle)]
  | cache => exact ⟨hj, rfl⟩

/-! ## Rows of actions -/

theorem run?_cons (s : State Memory) (a : Action) (actions : List Action) :
    s.run? h t p (a :: actions) = (s.step h t p a).bind fun x => x.run? h t p actions := rfl

theorem run?_append (s : State Memory) (first rest : List Action) :
    s.run? h t p (first ++ rest) = (s.run? h t p first).bind fun x => x.run? h t p rest := by
  simp [run?, List.foldlM_append]

/-- What holds of an empty row and is carried on by each action holds of the whole row. -/
theorem run_induction_on {P : List Action → State Memory → Prop} {actions : List Action}
    (hrun : s.run? h t p actions = some s') (h0 : P [] s)
    (hP : ∀ before a x y, s.run? h t p before = some x → x.step h t p a = some y → P before x →
      P (before ++ [a]) y) : P actions s' := by
  induction actions using List.reverseRecOn generalizing s' with
  | nil => cases hrun; exact h0
  | append_singleton actions a ih =>
    rw [run?_append] at hrun
    obtain ⟨x, hx, hrun⟩ := Option.bind_eq_some_iff.mp hrun
    rw [run?_cons] at hrun
    obtain ⟨y, hy, hrun⟩ := Option.bind_eq_some_iff.mp hrun
    obtain rfl : y = s' := Option.some.inj hrun
    exact hP actions a x y hx hy (ih hx)

/-- At some place of the row stands the action, and the state before it has the property. -/
def When (h : Responder Memory) (t : Timing) (p : Policy) (s : State Memory)
    (actions : List Action) (a : Action) (P : State Memory → Prop) : Prop :=
  ∃ before x, before ++ [a] <+: actions ∧ s.run? h t p before = some x ∧ P x

theorem When.mono {actions rest : List Action} {a : Action} {P : State Memory → Prop}
    (hw : s.When h t p actions a P) : s.When h t p (actions ++ rest) a P := by
  obtain ⟨before, x, hb, hx, hp⟩ := hw
  exact ⟨before, x, hb.trans (List.prefix_append ..), hx, hp⟩

theorem When.last {before : List Action} {a : Action} {x : State Memory} {P : State Memory → Prop}
    (hx : s.run? h t p before = some x) (hp : P x) : s.When h t p (before ++ [a]) a P :=
  ⟨before, x, List.prefix_refl _, hx, hp⟩

end State

end BearerTokens.Signing
