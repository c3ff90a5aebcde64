import BearerTokens.Proofs.Signing.Lessons
import BearerTokens.Proofs.Signing.Course
import Mathlib.Data.List.Basic

/-! # Scopes that are learned

The responder is asked about the challenges to first attempts and about nothing else, so its memory is
what they advertised.  The first attempt of every send is signed for the scope that was advertised last
to its authority, and nothing else that has happened before shows in its context.
-/

namespace BearerTokens.Signing

open Http

/-! ## What an action tells the responder -/

def Point.judging? : Point → Option Response
  | .judging response => some response
  | _ => none

def Exchange.judged? : Exchange → Option Response
  | .judged _ response _ => some response
  | _ => none

def Exchange.rejection? : Exchange → Option Response
  | .delivered _ false (.ok response) => if response.status = unauthorized then some response else none
  | _ => none

def Exchange.challenge? (e : Exchange) : Option Response := e.rejection?.filter (·.mayChallenge)

def Action.proceeds : Action → Bool
  | .sign _ | .deliver _ _ => true
  | _ => false

def Action.begins : Action → Bool
  | .send .. => true
  | _ => false

def Point.ended : Point → Bool
  | .done _ => true
  | _ => false

def Exchange.Idle (e : Exchange) : Prop := e.judged? = none ∧ e.challenge? = none

variable {Memory : Type}

namespace State

def requests (s : State Memory) : List Request := s.sends.map (·.request)

def pending? (s : State Memory) (i : SendId) : Option Response :=
  (s.sends[i]?).bind (·.point.judging?)

variable {h : Responder Memory} {t : Timing} {p : Policy} {s s' x : State Memory} {i j : SendId}

/-- What an action does to the answers that wait for the responder, to its memory and to the history. -/
inductive Tells (h : Responder Memory) (s s' : State Memory) : Action → Prop where
  | nothing {a : Action} {lines : List Exchange} (hh : s'.history = s.history ++ lines)
      (hl : ∀ e ∈ lines, e.Idle) (hp : ∀ j, s'.pending? j = s.pending? j) (hm : s'.memory = s.memory) :
      Tells h s s' a
  | challenge {i : SendId} {request : Request} {response : Response}
      (hi : s.requests[i]? = some request) (hr : response.mayChallenge = true)
      (hh : s'.history = s.history ++ [.delivered i false (.ok response)])
      (hp : ∀ j, s'.pending? j = if j = i then some response else s.pending? j)
      (hm : s'.memory = s.memory) : Tells h s s' (.deliver i (.ok response))
  | judgement {i : SendId} {request : Request} {response : Response} {context : Context}
      {next : Option Context} {lines : List Exchange} (hi : s.requests[i]? = some request)
      (hq : s.pending? i = some response)
      (hh : s'.history = s.history ++ .judged i response next :: lines) (hl : ∀ e ∈ lines, e.Idle)
      (hp : ∀ j, s'.pending? j = if j = i then none else s.pending? j)
      (hm : s'.memory = (h.answer s.memory (duplicate request) response context).1) :
      Tells h s s' (.judge i)

theorem requests_eq {send : Send} (hi : s.sends[i]? = some send) :
    s.requests[i]? = some send.request := by
  simp [requests, hi]

theorem pending?_eq {send : Send} (hi : s.sends[i]? = some send) :
    s.pending? i = send.point.judging? := by
  simp [pending?, hi]

theorem pending?_of_point {send : Send} (hi : s.sends[i]? = some send)
    (hq : send.point.judging? = none) (j : SendId) :
    (if j = i then none else s.pending? j) = s.pending? j := by
  split
  next h => rw [h, pending?_eq hi, hq]
  next => rfl

theorem move_pending {send : Send} (hi : s.sends[i]? = some send) (q : Point) (j : SendId) :
    (s.move i q).pending? j = if j = i then q.judging? else s.pending? j := by
  by_cases h : j = i
  · subst h
    simp [pending?, move, hi]
  · simp [pending?, move, h, List.getElem?_modify_ne _ _ (Ne.symm h)]

theorem attempt_pending {send : Send} (hi : s.sends[i]? = some send) (context : Context)
    (again : Bool) (j : SendId) :
    (s.attempt i send context again).pending? j = if j = i then none else s.pending? j := by
  have hlt : i < s.sends.length := (List.getElem?_eq_some_iff.mp hi).1
  by_cases h : j = i
  · subst h
    simp [pending?, attempt, record, hlt, Point.judging?]
  · simp [pending?, attempt, record, h, List.getElem?_set_ne (Ne.symm h)]

theorem Walks.tells {send : Send} {a : Action} {q : Point} {lines : List Exchange}
    (hi : s.sends[i]? = some send) (hw : send.Walks s.cache i a q lines) :
    Tells h s ((s.note lines).move i q) a := by
  have hpending := move_pending (s := s.note lines) hi q
  have hquiet (hq : send.point.judging? = none) (hq' : q.judging? = none)
      (hl : ∀ e ∈ lines, e.Idle) : Tells h s ((s.note lines).move i q) a := by
    refine .nothing rfl hl (fun j => ?_) rfl
    rw [hpending, hq']
    exact pending?_of_point (s := s) hi hq j
  cases hw with
  | refuse hp => exact hquiet (by rw [hp]; rfl) rfl (by simp)
  | @submit again _ _ _ _ hp | @lose again _ hp =>
    refine hquiet (by rw [hp]; rfl) rfl fun e he => ?_
    obtain rfl := List.mem_singleton.mp he
    exact ⟨rfl, by cases again <;> rfl⟩
  | misfit hp | fail hp => exact hquiet (by rw [hp]; rfl) rfl (by simp)
  | @settle again response hp hr =>
    refine hquiet (by rw [hp]; rfl) rfl fun e he => ?_
    obtain rfl := List.mem_singleton.mp he
    refine ⟨rfl, ?_⟩
    rcases hr with rfl | hr
    · rfl
    · cases again
      · simp only [Exchange.challenge?, Exchange.rejection?]
        split <;> simp [hr]
      · rfl
  | challenge hp hr => exact .challenge (requests_eq hi) hr rfl hpending rfl

theorem Moves.tells (hnoted : ∀ memory request context, h.noted memory request context = memory)
    {a : Action} (hm : Moves h t p s a s') : Tells h s s' a := by
  have hasked {i : SendId} {send : Send} {response : Response} (hi : s.sends[i]? = some send)
      (hp : send.point = .judging response) : s.pending? i = some response := by
    rw [pending?_eq hi, hp]
    rfl
  cases hm with
  | send =>
    refine .nothing (List.append_nil _).symm (by simp) (fun j => ?_) rfl
    simp only [pending?, Cache.State.getElem?_concat]
    split
    next hj => simp [hj, Point.judging?]
    next => rfl
  | @cancel i =>
    obtain ⟨hh, hm, hsends⟩ := s.cancelSend_eq i
    refine .nothing (by rw [hh, List.append_nil]) (by simp) (fun j => ?_) hm
    rw [pending?, hsends, List.getElem?_modify, pending?]
    cases s.sends[j]? with
    | none => rfl
    | some send => by_cases h : i = j <;> simp [h]
  | walk hi hw => exact Walks.tells hi hw
  | @sign i send context hi hp =>
    have hquiet : (Exchange.attempted i false (h.before s.memory send.request context)
        s.cache.calls.length).Idle := ⟨rfl, rfl⟩
    refine .nothing rfl (fun e he => List.mem_singleton.mp he ▸ hquiet) (fun j => ?_) (hnoted ..)
    have hpending := attempt_pending (s := { s with memory := h.noted s.memory send.request context })
      hi (h.before s.memory send.request context) false j
    exact hpending.trans (pending?_of_point (s := s) hi (by rw [hp]; rfl) j)
  | @decline i send response context memory hi hp hl hj =>
    have hmemory : memory = (h.answer s.memory (duplicate send.request) response context).1 := by
      rw [hj]
    exact .judgement (requests_eq hi) (hasked hi hp) rfl (by simp) (move_pending hi _) hmemory
  | @answer i send response context next memory hi hp hl hj =>
    have hquiet : (Exchange.attempted i true next s.cache.calls.length).Idle := ⟨rfl, rfl⟩
    have hmemory : memory = (h.answer s.memory (duplicate send.request) response context).1 := by
      rw [hj]
    exact .judgement (requests_eq hi) (hasked hi hp) (List.append_assoc _ [_] [_])
      (fun e he => List.mem_singleton.mp he ▸ hquiet) (attempt_pending hi next true) hmemory
  | cache => exact .nothing (List.append_nil _).symm (by simp) (fun _ => rfl) rfl

/-! ## The lessons of a history -/

/-- What a reading takes from the lines, with the requests of their sends. -/
def lessons (s : State Memory) (read : Exchange → Option Response) : List Lesson :=
  s.history.filterMap fun e =>
    (read e).bind fun response => (s.requests[e.id]?).map fun request => (request, response)

def judgements (s : State Memory) : List Lesson := s.lessons Exchange.judged?

def rejections (s : State Memory) : List Lesson := s.lessons Exchange.rejection?

def challenges (s : State Memory) : List Lesson := s.lessons Exchange.challenge?

def Known (s : State Memory) : Prop := ∀ j, s.sends.length ≤ j → s.linesOf j = []

theorem Known.lt (hk : s.Known) {e : Exchange} (he : e ∈ s.history) : e.id < s.sends.length := by
  rcases Nat.lt_or_ge e.id s.sends.length with hlt | hge
  · exact hlt
  · have hmem : e ∈ s.linesOf e.id := mem_linesOf.mpr ⟨he, rfl⟩
    rw [hk e.id hge] at hmem
    cases hmem

theorem Moves.known {a : Action} (hm : Moves h t p s a s') (hk : s.Known) : s'.Known := by
  intro j hj
  obtain ⟨hle, hlines⟩ := hm.unsent hj
  rw [hlines, hk j hle]

theorem requests_modify {f : Send → Send} (hs : s'.sends = s.sends.modify i f)
    (hf : ∀ send, (f send).request = send.request) : s.requests <+: s'.requests := by
  have heq : s'.requests = s.requests := by
    refine List.ext_getElem? fun j => ?_
    rw [requests, hs, List.getElem?_map, List.getElem?_modify, requests, List.getElem?_map]
    cases s.sends[j]? with
    | none => rfl
    | some send => by_cases h : i = j <;> simp [h, hf]
  exact ⟨[], by rw [List.append_nil, heq]⟩

theorem requests_attempt {send : Send} (hi : s.sends[i]? = some send) (context : Context)
    (again : Bool) : s.requests <+: (s.attempt i send context again).requests := by
  have heq : (s.attempt i send context again).requests = s.requests := by
    obtain ⟨hlt, rfl⟩ := List.getElem?_eq_some_iff.mp hi
    refine List.ext_getElem? fun j => ?_
    by_cases h : i = j
    · subst h
      simp [requests, attempt, record, hlt]
    · simp [requests, attempt, record, List.getElem?_set_ne h]
  exact ⟨[], by rw [List.append_nil, heq]⟩

/-- Sends keep their requests. -/
theorem Moves.requests {a : Action} (hm : Moves h t p s a s') : s.requests <+: s'.requests := by
  cases hm with
  | send => exact ⟨_, (List.map_append ..).symm⟩
  | cancel => exact requests_modify (s.cancelSend_eq _).2.2 fun _ => rfl
  | walk | decline => exact requests_modify rfl fun _ => rfl
  | sign hi => exact requests_attempt (s := { s with memory := _ }) hi _ _
  | answer hi =>
    exact requests_attempt (s := { s with memory := _, cache := _ }.record _) hi _ _
  | cache => exact List.prefix_refl _

section Lessons

variable {lines : List Exchange} {read : Exchange → Option Response}

theorem lessons_append (hk : s.Known) (hr : s.requests <+: s'.requests)
    (hh : s'.history = s.history ++ lines) :
    s'.lessons read = s.lessons read ++ lines.filterMap fun e =>
      (read e).bind fun response => (s'.requests[e.id]?).map fun request => (request, response) := by
  rw [lessons, hh, List.filterMap_append, lessons]
  congr 1
  refine List.filterMap_congr fun e he => ?_
  have hlt : e.id < s.requests.length := by simpa [requests] using hk.lt he
  obtain ⟨more, hmore⟩ := hr
  rw [← hmore, List.getElem?_append_left hlt]

/-- Lines that nothing is read from teach nothing. -/
theorem lessons_quiet (hk : s.Known) (hr : s.requests <+: s'.requests)
    (hh : s'.history = s.history ++ lines) (hl : ∀ e ∈ lines, read e = none) :
    s'.lessons read = s.lessons read := by
  rw [lessons_append hk hr hh, List.filterMap_eq_nil_iff.mpr, List.append_nil]
  intro e he
  simp [hl e he]

theorem requests_mono {request : Request} (hr : s.requests <+: s'.requests)
    (hi : s.requests[i]? = some request) : s'.requests[i]? = some request := by
  obtain ⟨more, hmore⟩ := hr
  rw [← hmore, List.getElem?_append_left (List.getElem?_eq_some_iff.mp hi).1, hi]

theorem lessons_line {e : Exchange} {request : Request} {response : Response} (hk : s.Known)
    (hr : s.requests <+: s'.requests) (hh : s'.history = s.history ++ e :: lines)
    (hi : s.requests[e.id]? = some request) (he : read e = some response)
    (hl : ∀ e ∈ lines, read e = none) :
    s'.lessons read = s.lessons read ++ [(request, response)] := by
  have hrequest := requests_mono hr hi
  have hnone : (lines.filterMap fun e => (read e).bind fun response =>
      (s'.requests[e.id]?).map fun request => (request, response)) = [] := by
    refine List.filterMap_eq_nil_iff.mpr fun e he => ?_
    simp [hl e he]
  rw [lessons_append hk hr hh, List.filterMap_cons]
  simp [he, hrequest, hnone]

end Lessons

theorem challenge?_delivered {response : Response} (hr : response.mayChallenge = true) :
    (Exchange.delivered i false (.ok response)).challenge? = some response := by
  have hstatus : response.status = unauthorized := by
    simp only [Response.mayChallenge, Bool.and_eq_true, beq_iff_eq] at hr
    exact hr.1
  simp [Exchange.challenge?, Exchange.rejection?, hstatus, hr]

section Steps

variable (hk : s.Known) (hr : s.requests <+: s'.requests)

include hk hr

theorem lessons_nothing {lines : List Exchange} (hh : s'.history = s.history ++ lines)
    (hl : ∀ e ∈ lines, e.Idle) : s'.challenges = s.challenges ∧ s'.judgements = s.judgements :=
  ⟨lessons_quiet hk hr hh fun e he => (hl e he).2, lessons_quiet hk hr hh fun e he => (hl e he).1⟩

theorem lessons_challenge {request : Request} {response : Response}
    (hi : s.requests[i]? = some request) (hm : response.mayChallenge = true)
    (hh : s'.history = s.history ++ [.delivered i false (.ok response)]) :
    s'.challenges = s.challenges ++ [(request, response)] ∧ s'.judgements = s.judgements :=
  ⟨lessons_line hk hr hh hi (challenge?_delivered hm) (by simp),
    lessons_quiet hk hr hh (by simp [Exchange.judged?])⟩

theorem lessons_judgement {request : Request} {response : Response} {next : Option Context}
    {lines : List Exchange} (hi : s.requests[i]? = some request)
    (hh : s'.history = s.history ++ .judged i response next :: lines) (hl : ∀ e ∈ lines, e.Idle) :
    s'.challenges = s.challenges ∧ s'.judgements = s.judgements ++ [(request, response)] := by
  refine ⟨lessons_quiet hk hr hh fun e he => ?_, lessons_line hk hr hh hi rfl fun e he => (hl e he).1⟩
  rcases List.mem_cons.mp he with rfl | he
  · rfl
  · exact (hl e he).2

end Steps

theorem challenges_eq (x : State Memory) :
    x.challenges = x.rejections.filter fun lesson => lesson.2.mayChallenge := by
  rw [challenges, rejections, lessons, lessons, List.filter_filterMap]
  refine List.filterMap_congr fun e _ => ?_
  cases hr : e.rejection? with
  | none => simp [Exchange.challenge?, hr]
  | some response =>
    cases hm : response.mayChallenge <;> cases hi : x.requests[e.id]? <;>
      simp [Exchange.challenge?, hr, hm, Option.filter]

/-! ## All runs -/

variable {cache : Cache.State} {actions rest : List Action}

theorem run_known {memory : Memory} (hrun : run? h t p { cache, memory } actions = some x) : x.Known :=
  run_induction_on (P := fun _ x => x.Known) hrun (fun _ _ => rfl)
    fun _ _ _ _ _ hstep hk => (step_moves hstep).known hk

/-- The memory of the responder is the latest lesson of each authority. -/
theorem run_remembers {x : State Learned}
    (hrun : run? scopeResponder t p { cache, memory := [] } actions = some x) (authority : String) :
    x.memory.scopeFor authority = latest? x.judgements authority := by
  refine run_induction_on (P := fun _ x => x.memory.scopeFor authority =
    latest? x.judgements authority) hrun rfl ?_
  intro before a x y hx hstep ih
  have hm := step_moves hstep
  have hk := run_known hx
  cases hm.tells fun _ _ _ => rfl with
  | nothing hh hl _ hmemory => rw [hmemory, ih, (lessons_nothing hk hm.requests hh hl).2]
  | challenge hi hc hh _ hmemory => rw [hmemory, ih, (lessons_challenge hk hm.requests hi hc hh).2]
  | judgement hi _ hh hl _ hmemory =>
    rw [hmemory, scopeResponder_remembers, ih, (lessons_judgement hk hm.requests hi hh hl).2,
      latest?_concat]
    rfl

structure Grounded (x : State Memory) : Prop where
  judged : x.judgements ⊆ x.challenges
  pending (i : SendId) (response : Response) : x.pending? i = some response →
    ∃ request, x.requests[i]? = some request ∧ (request, response) ∈ x.challenges

theorem Grounded.step {a : Action} (hk : s.Known) (hr : s.requests <+: s'.requests)
    (hg : s.Grounded) (ht : Tells h s s' a) : s'.Grounded := by
  cases ht with
  | nothing hh hl hp =>
    obtain ⟨hchallenges, hjudgements⟩ := lessons_nothing hk hr hh hl
    refine ⟨by rw [hchallenges, hjudgements]; exact hg.judged, fun j response hq => ?_⟩
    obtain ⟨request, hi, hmem⟩ := hg.pending j response ((hp j).symm.trans hq)
    exact ⟨request, requests_mono hr hi, hchallenges ▸ hmem⟩
  | @challenge i request response hi hm hh hp =>
    obtain ⟨hchallenges, hjudgements⟩ := lessons_challenge hk hr hi hm hh
    have hold : s.challenges ⊆ s'.challenges := by
      rw [hchallenges]
      exact List.subset_append_left _ _
    refine ⟨by rw [hjudgements]; exact List.Subset.trans hg.judged hold, fun j response' hq => ?_⟩
    rw [hp] at hq
    split at hq
    next hj =>
      cases hq
      exact ⟨request, hj ▸ requests_mono hr hi, by simp [hchallenges]⟩
    next =>
      obtain ⟨request', hi', hmem⟩ := hg.pending j response' hq
      exact ⟨request', requests_mono hr hi', hold hmem⟩
  | @judgement i request response context next lines hi hq hh hl hp =>
    obtain ⟨hchallenges, hjudgements⟩ := lessons_judgement hk hr hi hh hl
    refine ⟨?_, fun j response' hq' => ?_⟩
    · obtain ⟨request', hi', hmem⟩ := hg.pending i response hq
      cases hi.symm.trans hi'
      rw [hjudgements, hchallenges]
      exact List.append_subset.mpr ⟨hg.judged, List.cons_subset.mpr ⟨hmem, List.nil_subset _⟩⟩
    · rw [hp] at hq'
      split at hq'
      next => cases hq'
      next =>
        obtain ⟨request', hi', hmem⟩ := hg.pending j response' hq'
        exact ⟨request', requests_mono hr hi', hchallenges ▸ hmem⟩

theorem run_grounded {memory : Memory}
    (hnoted : ∀ memory request context, h.noted memory request context = memory)
    (hrun : run? h t p { cache, memory } actions = some x) : x.Grounded := by
  have hstart : Grounded { cache, memory : State Memory } :=
    ⟨by simp [judgements, lessons], by simp [pending?]⟩
  refine run_induction_on (P := fun _ x => x.Grounded) hrun hstart ?_
  intro before a x y hx hstep ih
  have hm := step_moves hstep
  exact ih.step (run_known hx) hm.requests (hm.tells hnoted)

/-! ## Answers that are judged in turn -/

/-- While an answer waits for the responder no send is signed, and no answer comes in. -/
def prompt (h : Responder Memory) (t : Timing) (p : Policy) : State Memory → List Action → Bool
  | _, [] => true
  | s, a :: actions => (s.step h t p a).all fun s' =>
      (!a.proceeds || s.sends.all (·.point.judging?.isNone)) && prompt h t p s' actions

theorem prompt_at {before : List Action} {a : Action} {y : State Memory}
    (hp : prompt h t p s actions = true) (hb : before ++ [a] <+: actions)
    (hx : s.run? h t p before = some x) (hy : x.step h t p a = some y) (ha : a.proceeds = true)
    (j : SendId) : x.pending? j = none := by
  induction before generalizing s actions with
  | nil =>
    obtain ⟨rest, rfl⟩ := hb
    cases hx
    have hquiet : ∀ send ∈ x.sends, send.point.judging? = none := by
      simp only [List.nil_append, List.singleton_append, prompt, hy, ha, Option.all_some,
        Bool.and_eq_true] at hp
      simpa using hp.1
    cases hi : x.sends[j]? with
    | none => simp [pending?, hi]
    | some send => rw [pending?_eq hi, hquiet send (List.mem_of_getElem? hi)]
  | cons b before ih =>
    obtain ⟨rest, rfl⟩ := hb
    rw [run?_cons] at hx
    obtain ⟨z, hz, hx⟩ := Option.bind_eq_some_iff.mp hx
    rw [List.cons_append, List.cons_append, prompt, hz, Option.all_some, Bool.and_eq_true] at hp
    exact ih hp.2 (List.prefix_append ..) hx

/-- The sends come one after another: each begins when those before it have ended. -/
def sequential (h : Responder Memory) (t : Timing) (p : Policy) : State Memory → List Action → Bool
  | _, [] => true
  | s, a :: actions => (s.step h t p a).all fun s' =>
      (!a.begins || s.sends.all (·.point.ended)) && sequential h t p s' actions

def Alone (s : State Memory) : Prop :=
  ∀ j send, s.sends[j]? = some send → send.point.ended = false → j + 1 = s.sends.length

theorem Moves.length_sends {a : Action} (hm : Moves h t p s a s') :
    s'.sends.length = s.sends.length + if a.begins then 1 else 0 := by
  cases hm with
  | send => simp [Action.begins]
  | @cancel i =>
    obtain ⟨-, -, hsends⟩ := s.cancelSend_eq i
    simp [hsends, Action.begins]
  | walk _ hw => cases hw <;> simp [move, note, Action.begins]
  | sign | decline | answer | cache => simp [attempt, move, record, Action.begins]

theorem Moves.alone {a : Action} (hm : Moves h t p s a s') (hs : s.Alone)
    (hb : a.begins = true → ∀ send ∈ s.sends, send.point.ended = true) : s'.Alone := by
  intro j send hj hended
  obtain ⟨lines, hf, -⟩ := hm.sendFrom hj
  rw [hm.length_sends]
  have hearlier {before : Send} (hi : s.sends[j]? = some before) (hnot : before.point.ended = false) :
      j + 1 = s.sends.length + if a.begins then 1 else 0 := by
    cases ha : a.begins with
    | true => rw [hb ha before (List.mem_of_getElem? hi)] at hnot; cases hnot
    | false => exact hs j before hi hnot
  cases hf with
  | same _ hi => exact hearlier hi hended
  | added => rfl
  | walked hi hw =>
    cases hw with
    | refuse hp | submit hp | misfit hp | fail hp | lose hp | settle hp | challenge hp =>
      exact hearlier hi (by rw [hp]; rfl)
  | signed hi hp | declined hi hp | answered hi hp => exact hearlier hi (by rw [hp]; rfl)

theorem Moves.proceeds {a : Action} (hm : Moves h t p s a s') (ha : a.proceeds = true) :
    ∃ (i : SendId) (send : Send), s.sends[i]? = some send ∧ send.point.ended = false ∧
      send.point.judging? = none := by
  cases hm with
  | send | cancel | decline | answer | cache => cases ha
  | sign hi hp => exact ⟨_, _, hi, by rw [hp]; exact ⟨rfl, rfl⟩⟩
  | walk hi hw =>
    cases hw with
    | submit | misfit | fail => cases ha
    | refuse hp | lose hp | settle hp | challenge hp =>
      exact ⟨_, _, hi, by rw [hp]; exact ⟨rfl, rfl⟩⟩

/-- A send that is alone waits for nobody's judgement but its own. -/
theorem prompt_of_sequential (hs : s.Alone) (hq : sequential h t p s actions = true) :
    prompt h t p s actions = true := by
  induction actions generalizing s with
  | nil => rfl
  | cons a actions ih =>
    rw [prompt]
    rw [sequential] at hq
    cases hstep : s.step h t p a with
    | none => rfl
    | some y =>
      rw [hstep, Option.all_some, Bool.and_eq_true] at hq
      have hm := step_moves hstep
      have hy : y.Alone := hm.alone hs fun ha => by simpa [ha] using hq.1
      rw [Option.all_some, Bool.and_eq_true]
      refine ⟨?_, ih hy hq.2⟩
      cases ha : a.proceeds with
      | false => rfl
      | true =>
        obtain ⟨i, send, hi, hended, hquiet⟩ := hm.proceeds ha
        have hall : ∀ other ∈ s.sends, other.point.judging? = none := by
          intro other hother
          obtain ⟨j, hj⟩ := List.mem_iff_getElem?.mp hother
          cases hp : other.point with
          | judging response =>
            have hlast := hs j other hj (by rw [hp]; rfl)
            obtain rfl : i = j := Nat.succ.inj ((hs i send hi hended).trans hlast.symm)
            cases hi.symm.trans hj
            rw [hp] at hquiet
            cases hquiet
          | _ => rfl
        simpa using hall

/-- All challenges have been judged in turn but for one at most, which is next. -/
inductive InTurn (x : State Memory) : Prop where
  | done (hp : ∀ j, x.pending? j = none) (hc : x.challenges = x.judgements) : InTurn x
  | waiting {i : SendId} {request : Request} {response : Response}
      (hi : x.requests[i]? = some request) (hq : x.pending? i = some response)
      (hp : ∀ j, j ≠ i → x.pending? j = none)
      (hc : x.challenges = x.judgements ++ [(request, response)]) : InTurn x

theorem InTurn.step {a : Action} (hk : s.Known) (hr : s.requests <+: s'.requests)
    (hturn : s.InTurn) (ht : Tells h s s' a)
    (hprompt : a.proceeds = true → ∀ j, s.pending? j = none) : s'.InTurn := by
  cases ht with
  | nothing hh hl hp =>
    obtain ⟨hchallenges, hjudgements⟩ := lessons_nothing hk hr hh hl
    cases hturn with
    | done hnone hc =>
      exact .done (fun j => (hp j).trans (hnone j)) (by rw [hchallenges, hc, hjudgements])
    | waiting hi hq hnone hc =>
      exact .waiting (requests_mono hr hi) ((hp _).trans hq) (fun j hj => (hp j).trans (hnone j hj))
        (by rw [hchallenges, hc, hjudgements])
  | @challenge i request response hi hm hh hp =>
    have hnone := hprompt rfl
    obtain ⟨hchallenges, hjudgements⟩ := lessons_challenge hk hr hi hm hh
    cases hturn with
    | waiting _ hq => cases (hnone _).symm.trans hq
    | done _ hc =>
      have hpending : s'.pending? i = some response := by simp [hp]
      refine .waiting (requests_mono hr hi) hpending (fun j hj => ?_)
        (by rw [hchallenges, hc, hjudgements])
      rw [hp, if_neg hj, hnone]
  | @judgement i request response context next lines hi hq hh hl hp =>
    obtain ⟨hchallenges, hjudgements⟩ := lessons_judgement hk hr hi hh hl
    cases hturn with
    | done hnone => cases (hnone i).symm.trans hq
    | @waiting i' request' response' hi' hq' hnone hc =>
      obtain rfl : i = i' := by
        by_contra hne
        cases (hnone i hne).symm.trans hq
      cases hi.symm.trans hi'
      cases hq.symm.trans hq'
      refine .done (fun j => ?_) (by rw [hchallenges, hc, hjudgements])
      rw [hp]
      split
      next => rfl
      next hj => exact hnone j hj

theorem run_inTurn {memory : Memory}
    (hnoted : ∀ memory request context, h.noted memory request context = memory)
    (hrun : run? h t p { cache, memory } actions = some x)
    (hp : prompt h t p { cache, memory } (actions ++ rest) = true) : x.InTurn := by
  refine run_induction_on (P := fun before x => before <+: actions ++ rest → x.InTurn) hrun
    (fun _ => .done (fun _ => rfl) rfl) ?_ (List.prefix_append ..)
  intro before a x y hx hstep ih hb
  have hm := step_moves hstep
  have hturn := ih ((List.prefix_append ..).trans hb)
  exact hturn.step (run_known hx) hm.requests (hm.tells hnoted) fun ha =>
    prompt_at hp hb hx hstep ha

end State

/-! ## First attempts -/

section Chosen

variable {cache : Cache.State} {i : SendId} {again again' : Bool} {request : Request}
  {context context' : Context} {c : Cache.CallId} {q : Point} {lines : List Exchange}

theorem Signed.attempted_eq (hl : Signed cache i again request context lines)
    (hc : .attempted i again' context' c ∈ lines) : again' = again ∧ context' = context := by
  obtain ⟨hb, ha⟩ := hl
  obtain ⟨rfl, rfl, -⟩ : again' = again ∧ context' = context ∧ c = _ := by simpa using hc
  exact ⟨rfl, rfl⟩

theorem Attempt.attempted_eq (ha : Attempt cache i again request context q lines)
    (hc : .attempted i again' context' c ∈ lines) : again' = again ∧ context' = context := by
  cases ha with
  | acquiring | failed | misfit =>
    obtain ⟨rfl, rfl, -⟩ : again' = again ∧ context' = context ∧ c = _ := by simpa using hc
    exact ⟨rfl, rfl⟩
  | awaiting hl => exact hl.attempted_eq hc
  | lost hl | settled hl => exact hl.attempted_eq (by simpa using hc)

theorem Course.attempted_chosen {chosen : Context → Prop}
    {judged : Context → Response → Option Context → Prop} {contexts : List Context}
    (hcourse : Course cache i request chosen judged contexts q lines)
    (hc : .attempted i false context c ∈ lines) : chosen context := by
  cases hcourse with
  | starting | refused => cases hc
  | first _ hchosen ha => exact (ha.attempted_eq hc).2 ▸ hchosen
  | judging _ hchosen hl | declined _ hchosen hl =>
    exact (hl.attempted_eq (by simpa using hc)).2 ▸ hchosen
  | @second _ _ first rest _ _ _ hchosen hl _ _ ha =>
    have hsplit : .attempted i false context c ∈ first ∨ .attempted i false context c ∈ rest := by
      simpa using hc
    rcases hsplit with hc | hc
    · exact (hl.attempted_eq hc).2 ▸ hchosen
    · cases (ha.attempted_eq hc).1

end Chosen

namespace State

variable {t : Timing} {p : Policy} {x : State Learned} {cache : Cache.State} {actions : List Action}
  {i : SendId}

theorem latest?_challenges (x : State Learned) (authority : String) :
    latest? x.challenges authority = latest? x.rejections authority := by
  rw [challenges_eq]
  refine latest?_filter fun lesson _ hk => ?_
  simp [Lesson.scope?, advertised?_eq_none hk]

/-- The context of every first attempt is determined by the answers that the responder was asked about
before, which rejected first attempts, and where it is asked promptly by all answers that did. -/
theorem learned {context : Context} {c : Cache.CallId}
    (hrun : run? scopeResponder t p { cache, memory := [] } actions = some x)
    (hl : .attempted i false context c ∈ x.history) :
    ∃ request, x.requests[i]? = some request ∧
      When scopeResponder t p { cache, memory := [] } actions (.sign i) fun z =>
        Learns p z.judgements request context ∧ z.judgements ⊆ z.rejections ∧
          (prompt scopeResponder t p { cache, memory := [] } actions = true →
            Learns p z.rejections request context) := by
  obtain ⟨send, hi⟩ : ∃ send, x.sends[i]? = some send :=
    ⟨_, List.getElem?_eq_getElem ((run_known hrun).lt hl)⟩
  have hline : .attempted i false context c ∈ x.linesOf i := mem_linesOf.mpr ⟨hl, rfl⟩
  obtain ⟨before, z, hb, hz, rfl⟩ := Course.attempted_chosen (run_goes hrun hi) hline
  have hremembers := run_remembers hz
  refine ⟨send.request, requests_eq hi, before, z, hb, hz, learns_before hremembers p send.request,
    ?_, fun hp => ?_⟩
  · have hjudged := (run_grounded (fun _ _ _ => rfl) hz).judged
    rw [challenges_eq] at hjudged
    exact List.Subset.trans hjudged (List.filter_subset_self _)
  · obtain ⟨rest, rfl⟩ := id hb
    obtain ⟨y, hy⟩ : ∃ y, z.step scopeResponder t p (.sign i) = some y := by
      rw [List.append_assoc, run?_append, hz, Option.bind_some, List.singleton_append, run?_cons] at hrun
      obtain ⟨y, hy, -⟩ := Option.bind_eq_some_iff.mp hrun
      exact ⟨y, hy⟩
    have hidle := prompt_at hp hb hz hy rfl
    rw [List.append_assoc] at hp
    cases run_inTurn (fun _ _ _ => rfl) hz hp with
    | waiting _ hq => cases (hidle _).symm.trans hq
    | done _ hc =>
      refine learns_before (fun authority => ?_) p send.request
      rw [hremembers, ← hc, latest?_challenges]

def vaultRequest (headers : Headers) : Request :=
  { uri := { scheme := some "https", authority := some "vault" }, headers }

/-- The first send is rejected twice, and the second one is signed for the scope that it was told. -/
def taughtRow : List Action :=
  [.send (vaultRequest []) true true, .sign 0, .cache (.decide 0 ⟨0⟩), .cache (.enter 0), .cache (.ask 0),
    .cache (.answer 0 (.ok (.ofText "T" ⟨600000000000⟩))), .cache (.close 0), .submit 0,
    .deliver 0 (.ok { status := 401, headers := [("www-authenticate", "Bearer resource=r/")] }),
    .judge 0, .cache (.decide 1 ⟨1⟩), .cache (.enter 1), .cache (.ask 1),
    .cache (.answer 1 (.ok (.ofText "S" ⟨600000000000⟩))), .cache (.close 1), .submit 0,
    .deliver 0 (.ok { status := 401, headers := [("www-authenticate", "Bearer scope=other")] }),
    .send (vaultRequest [("x-ms-client-request-id", "id")]) true true, .sign 1]

theorem learned_taughtRow : ∃ x request,
    run? scopeResponder {} { scopes := ["A", "B"] } { memory := [] } taughtRow = some x ∧
    .attempted 1 false { scopes := ["r/.default"], correlation := some "id" } 2 ∈ x.history ∧
    x.requests[1]? = some request ∧
    When scopeResponder {} { scopes := ["A", "B"] } { memory := [] } taughtRow (.sign 1) fun z =>
      Learns { scopes := ["A", "B"] } z.rejections request
        { scopes := ["r/.default"], correlation := some "id" } := by
  let attempt? : Exchange → Option (SendId × Bool × Context × Cache.CallId)
    | .attempted i again context c => some (i, again, context, c)
    | _ => none
  have hread : (run? scopeResponder {} { scopes := ["A", "B"] } { memory := [] } taughtRow).map
      (fun x => x.history.filterMap attempt?) = some [(0, false, { scopes := ["A", "B"] }, 0),
        (0, true, { scopes := ["r/.default"] }, 1),
        (1, false, { scopes := ["r/.default"], correlation := some "id" }, 2)] := by decide +kernel
  obtain ⟨x, hrun, hx⟩ := Option.map_eq_some_iff.mp hread
  have hl : .attempted 1 false { scopes := ["r/.default"], correlation := some "id" } 2 ∈ x.history := by
    obtain ⟨e, he, hattempt⟩ := List.mem_filterMap.mp
      (show (1, false, { scopes := ["r/.default"], correlation := some "id" }, 2) ∈
        x.history.filterMap attempt? by rw [hx]; simp)
    cases e with
    | attempted => cases hattempt; exact he
    | _ => cases hattempt
  obtain ⟨request, hi, before, z, hb, hz, -, -, hlearns⟩ := learned hrun hl
  have hsequential : sequential scopeResponder {} { scopes := ["A", "B"] } { memory := [] } taughtRow =
      true := by decide +kernel
  have hprompt := prompt_of_sequential (by simp [Alone]) hsequential
  exact ⟨x, request, hrun, hl, hi, before, z, hb, hz, hlearns hprompt⟩

end State

end BearerTokens.Signing
