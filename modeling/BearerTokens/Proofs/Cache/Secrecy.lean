import BearerTokens.Cache.Text
import BearerTokens.Proofs.Cache.Lineage
import BearerTokens.Proofs.Cache.Recast
import Mathlib.Data.List.Forall2
import Mathlib.Logic.Equiv.Basic

/-! # Secrets stay secret

Two rows of actions that differ only in the secrets of the tokens lead to the same decisions, the same
counters, the same log and the same texts.  The headers that calls return do differ, and each of them
carries, in either row, the secret that the same answer brought.  Claims texts are as hidden, but for
the fingerprints that a log names contexts by.

Both rows are recast of a third, in which every secret tells the place of its answer in the row.
-/

namespace BearerTokens

namespace Rewording

def same : Rewording := ⟨⟨id, fun _ _ => .rfl⟩, fun _ => rfl⟩

def ofInjective (f : String → String) (hf : Function.Injective f) : Rewording where
  context c := { c with claims := c.claims.map f }
  claims_only _ := rfl
  equivalent a b := by simp only [Context.Equivalent, (Option.map_injective hf).eq_iff]

theorem correlation_eq (φ : Rewording) (c : Context) :
    (φ.context c).correlation = c.correlation := by rw [φ.claims_only]

end Rewording

namespace Recast

variable (φ : Rewording)

def stamp (v : String) : Recast where
  toRenaming := φ.toRenaming
  secret _ := v
  header _ := Secret.header ⟨v⟩
  header_secret _ := rfl

def veil : Recast := stamp φ ""

def reword : Recast where
  toRenaming := φ.toRenaming
  secret := id
  header := id
  header_secret _ := rfl

end Recast

variable {κ : Recast}

/-! ## What a log shows -/

def Entry.context? : Entry → Option Context
  | .span _ context | .warned context _ _ | .answering context => some context
  | .counted _ _ | .fellBack _ => none

def Entry.print (e : Entry) : String := (e.context?.map Context.fingerprint).getD ""

def printFields (print : String) (fields : List (String × String)) : List (String × String) :=
  fields.map fun field => if field.1 = "context" then ("context", print) else field

def Entry.Shown.withPrint (print : String) : Entry.Shown → Entry.Shown
  | .span name fields => .span name (printFields print fields)
  | .counter name labels => .counter name (printFields print labels)
  | .event level fields => .event level (printFields print fields)

@[simp] theorem printFields_cons (print : String) (field : String × String)
    (fields : List (String × String)) : printFields print (field :: fields) =
      (if field.1 = "context" then ("context", print) else field) :: printFields print fields := rfl

@[simp] theorem printFields_append (print : String) (fields rest : List (String × String)) :
    printFields print (fields ++ rest) = printFields print fields ++ printFields print rest :=
  List.map_append

@[simp] theorem printFields_nil (print : String) : printFields print [] = [] := rfl

theorem printFields_logFields (φ : Rewording) (c : Context) :
    printFields (φ.context c).fingerprint c.logFields = (φ.context c).logFields := by
  unfold Context.logFields
  rw [φ.correlation_eq]
  cases c.correlation <;> simp

/-- A log shows nothing of a claims text but the fingerprint. -/
theorem Entry.shown_recast (φ : Rewording) (e : Entry) :
    (e.recast (.reword φ)).shown = e.shown.withPrint (e.recast (.reword φ)).print := by
  cases e <;> simp [shown, Shown.withPrint, print, context?, Recast.reword, printFields_logFields]

namespace Cache

/-! ## What a state shows -/

namespace State

/-- The decisions of calls, with the headers of their passes blotted out. -/
def decisions (s : State) : List (CallId × Instant × Decision) :=
  s.history.filterMap fun
    | .decided c now d => some (c, now, d.recast (.veil .same))
    | _ => none

variable (s : State)

theorem recast_log : (s.recast κ).log = s.log.map (Entry.recast κ) := by
  simp only [log, recast, List.filterMap_map, List.map_filterMap]
  congr 1
  funext line
  cases line <;> rfl

theorem recast_flightText (f : FlightId) : (s.recast κ).flightText f = s.flightText f := by
  have htext (o : Outcome) : (o.recast κ).text = o.text := by cases o <;> rfl
  simp only [flightText, recast_outcome?, Option.map_map]
  congr 2
  exact funext htext

/-- The text of a state shows no secret. -/
theorem recast_text (φ : Rewording) : (s.recast (.veil φ)).text = (s.recast (.reword φ)).text := by
  have hflights : (s.recast (.veil φ)).flightText = (s.recast (.reword φ)).flightText :=
    funext fun f => (s.recast_flightText f).trans (s.recast_flightText f).symm
  unfold text
  rw [hflights]
  rfl

theorem text_same : (s.recast (.reword .same)).text = s.text := by
  have hflights : (s.recast (.reword .same)).flightText = s.flightText :=
    funext s.recast_flightText
  unfold text
  rw [hflights]
  simp [recast, Holding.recast, Recast.reword, Rewording.same]

/-! ## What calls return -/

def header? (s : State) (c : CallId) : Option String :=
  match (s.calls[c]?).map Call.point with
  | some (.done (.returned (.ok header))) => some header
  | _ => none

/-- The calls that have returned a header in the later state and not in this one. -/
def gains (s s' : State) : List (CallId × String) :=
  (List.range s'.calls.length).filterMap fun c =>
    if (s.header? c).isSome then none else (s'.header? c).map (c, ·)

/-- The headers that calls return along a row, in the order in which they do. -/
def returns (t : Timing) (s : State) : List Action → List (CallId × String)
  | [] => []
  | a :: actions => match s.step t a with
    | some s' => s.gains s' ++ s'.returns t actions
    | none => []

variable {s} in
theorem header?_eq_some {c : CallId} {header : String} (h : s.header? c = some header) :
    ∃ call, s.calls[c]? = some call ∧ call.point = .done (.returned (.ok header)) := by
  unfold header? at h
  split at h
  next hp =>
    cases h
    exact Option.map_eq_some_iff.mp hp
  next => cases h

theorem recast_header? (c : CallId) : (s.recast κ).header? c = (s.header? c).map κ.header := by
  unfold header?
  rw [recast_call?]
  cases hc : s.calls[c]? with
  | none => rfl
  | some call =>
    cases hp : call.point with
    | done exit =>
      cases exit with
      | returned answer => cases answer <;> simp [Call.recast, hp, Except.map]
      | dropped | crashed => simp [Call.recast, hp]
    | _ => simp [Call.recast, hp]

theorem recast_gains (s' : State) : (s.recast κ).gains (s'.recast κ) =
    (s.gains s').map fun found => (found.1, κ.header found.2) := by
  have hlength : (s'.recast κ).calls.length = s'.calls.length := List.length_map _
  unfold gains
  rw [hlength, List.map_filterMap]
  congr 1
  funext c
  simp only [recast_header?, Option.isSome_map, Option.map_map]
  cases (s.header? c).isSome with
  | true => rfl
  | false => simp [Function.comp_def]

theorem recast_returns {t : Timing} (actions : List Action) :
    (s.recast κ).returns t (actions.map (Action.recast κ)) =
      (s.returns t actions).map fun found => (found.1, κ.header found.2) := by
  induction actions generalizing s with
  | nil => rfl
  | cons a actions ih =>
    simp only [List.map_cons, returns, recast_step]
    cases s.step t a with
    | none => rfl
    | some x => simp only [Option.map_some, List.map_append, recast_gains, ih]

/-- Whatever is returned along a row, a call has returned in some state of the run. -/
theorem header?_of_mem_returns {t : Timing} {actions : List Action} {c : CallId} {header : String}
    (h : (c, header) ∈ s.returns t actions) :
    ∃ n x, s.run? t (actions.take n) = some x ∧ x.header? c = some header := by
  induction actions generalizing s with
  | nil => cases h
  | cons a actions ih =>
    unfold returns at h
    cases ha : s.step t a with
    | none => simp [ha] at h
    | some y =>
      simp only [ha] at h
      rcases List.mem_append.mp h with h | h
      · refine ⟨1, y, by simp [run?, ha], ?_⟩
        obtain ⟨i, -, hi⟩ := List.mem_filterMap.mp h
        split at hi
        · cases hi
        · obtain ⟨found, hfound, he⟩ := Option.map_eq_some_iff.mp hi
          cases he
          exact hfound
      · obtain ⟨n, x, hx, hheader⟩ := ih y h
        exact ⟨n + 1, x, by simpa [run?, ha] using hx, hheader⟩

end State

/-! ## Where a returned secret is from -/

def Action.token? : Action → Option Token
  | .answer _ (.ok token) | .answerRenewal _ (.ok token) _ => some token
  | _ => none

def tokenAt (actions : List Action) (i : Nat) : Option Token :=
  (actions[i]?).bind Action.token?

variable {t : Timing} {s : State} {actions : List Action}

theorem Call.Walks.token?_eq {c : CallId} {call : Call} {a : Action} {p : Point}
    {lines : List Happening} {tally : Metrics → Metrics} (hw : call.Walks t s c a p lines tally)
    {q : Requester} {token : Token} (hl : .answered q (.ok token) ∈ lines) :
    a.token? = some token := by
  cases hw <;> simp_all [Action.token?]

theorem Renewal.Keeps.not_answered {r : RenewalId} {renewal : Renewal} {now : Instant}
    {delay : Duration} {reason : Reason} {error : String} {p : Point} {lines : List Happening}
    (hk : renewal.Keeps r now delay reason error p lines) {q : Requester} {answer : Answer} :
    .answered q answer ∉ lines := by
  cases hk <;> simp

theorem Renewal.Walks.token?_eq {r : RenewalId} {renewal : Renewal} {a : Action} {p : Point}
    {lines : List Happening} (hw : renewal.Walks t r a p lines)
    {q : Requester} {token : Token} (hl : .answered q (.ok token) ∈ lines) :
    a.token? = some token := by
  cases hw with
  | answered | unfit => simp_all [Action.token?]
  | refused _ hk =>
    obtain hl | hl := List.mem_cons.mp hl
    · cases hl
    · exact (hk.not_answered hl).elim
  | expire _ hk => exact (hk.not_answered hl).elim
  | begin | ask | abandon => simp at hl

theorem State.answered_mem (h : State.run? t {} actions = some s) {q : Requester} {token : Token}
    (hl : .answered q (.ok token) ∈ s.history) : ∃ a ∈ actions, a.token? = some token := by
  refine State.run_induction_on (P := fun before x => .answered q (.ok token) ∈ x.history →
    ∃ a ∈ before, a.token? = some token) h (by simp) ?_ hl
  intro before a x y _ _ hy _ ih hl
  have hnew (ha : a.token? = some token) : ∃ b ∈ before ++ [a], b.token? = some token :=
    ⟨a, List.mem_append_right _ (List.mem_singleton_self _), ha⟩
  cases (State.step_moves hy).lineFrom hl with
  | same hl =>
    obtain ⟨b, hb, htoken⟩ := ih hl
    exact ⟨b, List.mem_append_left _ hb, htoken⟩
  | walked _ hw hl => exact hnew (hw.token?_eq hl)
  | walkedRenewal _ hw hl => exact hnew (hw.token?_eq hl)
  | started _ _ _ hs hl =>
    cases hs with
    | hosted => cases hl
    | alone hk => exact (hk.not_answered hl).elim

theorem State.Stems.answered {f g : FlightId} {token : Token} (h : s.Stems f g token) :
    ∃ q, .answered q (.ok token) ∈ s.history := by
  induction h with
  | acquired _ ha => exact ⟨_, ha⟩
  | renewed _ ha => exact ⟨_, ha⟩
  | kept _ _ _ ih => exact ih

/-- A header that a call has returned carries a token of the row. -/
theorem State.header_mem (h : State.run? t {} actions = some s) {c : CallId} {header : String}
    (hc : s.header? c = some header) :
    ∃ a ∈ actions, ∃ token, a.token? = some token ∧ header = token.secret.header := by
  have hr : Reachable t s := ⟨actions, h⟩
  obtain ⟨call, hcall, hp⟩ := header?_eq_some hc
  obtain ⟨_, _, d, pass, -, ho, rfl, -⟩ := hr.supplied hcall hp
  obtain ⟨g, token, hstems, hcarries⟩ := hr.traced ho
  obtain ⟨q, hl⟩ := hstems.answered
  obtain ⟨a, ha, htoken⟩ := State.answered_mem h hl
  exact ⟨a, ha, token, htoken, hcarries.1⟩

/-! ## Rows whose secrets tell their places -/

def mark (i : Nat) : String := String.ofList (List.replicate i '.')

/-- The row with the place of each token for its secret. -/
def marked (actions : List Action) : List Action :=
  actions.mapIdx fun i a => a.recast (.stamp .same (mark i))

def secretAt (actions : List Action) (i : Nat) : String :=
  ((tokenAt actions i).map (·.secret.value)).getD ""

/-- The secrets of a row for the places that they have in it. -/
def unmark (actions : List Action) : Recast where
  toRenaming := Rewording.same.toRenaming
  secret v := secretAt actions v.length
  header h := Secret.header ⟨secretAt actions (h.length - (Secret.header ⟨""⟩).length)⟩
  header_secret v := by
    -- a mark tells its place by its length, so a header does by its own
    have hlength : (Secret.header ⟨v⟩).length = (Secret.header ⟨""⟩).length + v.length := by
      simp [Secret.header, String.length_append]
    rw [hlength, Nat.add_sub_cancel_left]

theorem length_mark (i : Nat) : (mark i).length = i := by simp [mark]

theorem tokenAt_recast (i : Nat) :
    tokenAt (actions.map (Action.recast κ)) i = (tokenAt actions i).map (Token.recast κ) := by
  have haction (a : Action) : (a.recast κ).token? = a.token?.map (Token.recast κ) := by
    cases a with
    | answer _ told | answerRenewal _ told => cases told <;> rfl
    | _ => rfl
  unfold tokenAt
  cases ha : actions[i]? <;> simp [ha, haction]

theorem Action.stamp_recast {a : Action} {v : String} (hcontext : ∀ c, κ.context c = c)
    (h : ∀ token, a.token? = some token → κ.secret v = token.secret.value) :
    (a.recast (.stamp .same v)).recast κ = a := by
  cases a with
  | call => simp [recast, Recast.stamp, Rewording.same, hcontext]
  | answer _ told | answerRenewal _ told =>
    cases told with
    | error => rfl
    | ok token => simp [recast, Answer.recast, Except.map, Token.recast, Recast.stamp, h token rfl]
  | _ => rfl

theorem marked_recast (actions : List Action) :
    (marked actions).map (Action.recast (unmark actions)) = actions := by
  refine List.ext_getElem? fun i => ?_
  cases ha : actions[i]? with
  | none => simp [marked, ha]
  | some a =>
    have hsecret : ∀ token, a.token? = some token →
        (unmark actions).secret (mark i) = token.secret.value := by
      intro token htoken
      simp [unmark, length_mark, secretAt, tokenAt, ha, htoken]
    simp [marked, ha, Action.stamp_recast (fun _ => rfl) hsecret]

theorem Action.recast_same (a : Action) : a.recast (.reword .same) = a := by
  cases a with
  | answer _ told | answerRenewal _ told => cases told <;> rfl
  | _ => rfl

theorem Action.veil_stamp (φ : Rewording) (v : String) (a : Action) :
    (a.recast (.veil φ)).recast (.stamp .same v) =
      (a.recast (.stamp .same v)).recast (.reword φ) := by
  cases a with
  | answer _ told | answerRenewal _ told => cases told <;> rfl
  | _ => rfl

theorem marked_veil (φ : Rewording) (actions : List Action) :
    marked (actions.map (Action.recast (.veil φ))) =
      (marked actions).map (Action.recast (.reword φ)) := by
  refine List.ext_getElem? fun i => ?_
  cases ha : actions[i]? <;> simp [marked, ha, Action.veil_stamp]

/-- The rows are the same but for the secrets of tokens, and for claims texts, which are reworded. -/
def Alike (φ : Rewording) (actions actions' : List Action) : Prop :=
  actions'.map (Action.recast (.veil .same)) = actions.map (Action.recast (.veil φ))

section

variable {φ : Rewording} {actions' : List Action}

theorem Alike.marked_eq (h : Alike φ actions actions') :
    marked actions' = (marked actions).map (Action.recast (.reword φ)) :=
  calc marked actions' = (marked actions').map (Action.recast (.reword .same)) :=
        (List.map_id'' Action.recast_same _).symm
    _ = marked (actions'.map (Action.recast (.veil .same))) := (marked_veil .same actions').symm
    _ = marked (actions.map (Action.recast (.veil φ))) := by rw [h]
    _ = (marked actions).map (Action.recast (.reword φ)) := marked_veil φ actions

/-- The two returns are of one call, with the tokens that the rows have at one place. -/
def Corresponds (actions actions' : List Action) (found found' : CallId × String) : Prop :=
  found.1 = found'.1 ∧ ∃ i token token', tokenAt actions i = some token ∧
    tokenAt actions' i = some token' ∧ found.2 = "Bearer " ++ token.secret.value ∧
      found'.2 = "Bearer " ++ token'.secret.value

theorem tokenAt_unmark {i : Nat} {token : Token} (h : tokenAt (marked actions) i = some token) :
    tokenAt actions i = some (token.recast (unmark actions)) := by
  conv_lhs => rw [← marked_recast actions]
  rw [tokenAt_recast, h, Option.map_some]

theorem returns_unmark (t : Timing) (actions : List Action) :
    State.returns t {} actions = (State.returns t {} (marked actions)).map
      fun found => (found.1, (unmark actions).header found.2) := by
  rw [← State.recast_returns, marked_recast]
  rfl

/-- A return of the row with the places is one of each row that is alike. -/
theorem Alike.corresponds (halike : Alike φ actions actions') {found : CallId × String}
    (h : found ∈ State.returns t {} (marked actions)) :
    Corresponds actions actions' (found.1, (unmark actions).header found.2)
      (found.1, (unmark actions').header found.2) := by
  obtain ⟨n, x, hx, hheader⟩ := State.header?_of_mem_returns _ h
  obtain ⟨a, ha, token, htoken, he⟩ := State.header_mem hx hheader
  obtain ⟨i, hi⟩ := List.mem_iff_getElem?.mp (List.mem_of_mem_take ha)
  have hplace : tokenAt (marked actions) i = some token := by simp [tokenAt, hi, htoken]
  have hplace' : tokenAt (marked actions') i = some token := by
    rw [halike.marked_eq, tokenAt_recast, hplace]
    rfl
  refine ⟨rfl, i, _, _, tokenAt_unmark hplace, tokenAt_unmark hplace', ?_, ?_⟩ <;> rw [he]
  · exact (unmark actions).header_secret token.secret.value
  · exact (unmark actions').header_secret token.secret.value

/-- Calls of alike rows return their headers in the same order, each from the same place. -/
theorem Alike.returns (halike : Alike φ actions actions') :
    List.Forall₂ (Corresponds actions actions') (State.returns t {} actions)
      (State.returns t {} actions') := by
  -- the marked rows differ in claims texts alone, which no header has in it
  have hmarked : State.returns t {} (marked actions') = State.returns t {} (marked actions) := by
    rw [halike.marked_eq]
    exact (State.recast_returns (κ := .reword φ) {} (marked actions)).trans (List.map_id _)
  rw [returns_unmark t actions, returns_unmark t actions', hmarked, List.forall₂_map_left_iff,
    List.forall₂_map_right_iff, List.forall₂_same]
  exact fun _ => halike.corresponds

end

/-! ## Two runs -/

structure State.Resembles (φ : Rewording) (t : Timing) (actions actions' : List Action)
    (s s' : State) : Prop where
  /-- Nothing differs but secrets, headers and claims texts. -/
  veiled : s'.recast (.veil .same) = s.recast (.veil φ)
  decisions : s'.decisions = s.decisions
  metrics : s'.metrics = s.metrics
  log : s'.log = s.log.map (Entry.recast (.reword φ))
  /-- What the logs show differs in fingerprints at most. -/
  shown : s'.log.map Entry.shown =
    s.log.map fun e => e.shown.withPrint (e.recast (.reword φ)).print
  tokens (i : Nat) : (tokenAt actions' i).map Token.text = (tokenAt actions i).map Token.text
  passes (f : FlightId) : s'.flightText f = s.flightText f
  text : s'.text = (s.recast (.reword φ)).text
  returns : List.Forall₂ (Corresponds actions actions') (State.returns t {} actions)
    (State.returns t {} actions')

variable {φ : Rewording} {s' : State} {actions' : List Action}

theorem Entry.recast_same (e : Entry) : e.recast (.reword .same) = e := by cases e <;> rfl

theorem State.recast_decisions : (s.recast κ).decisions = s.decisions := by
  simp only [decisions, recast, List.filterMap_map]
  congr 1
  funext line
  cases line with
  | decided c now d => cases d <;> rfl
  | _ => rfl

theorem Alike.run_eq (halike : Alike φ actions actions') :
    (State.run? t {} actions').map (State.recast (.veil .same)) =
      (State.run? t {} actions).map (State.recast (.veil φ)) := by
  have hrun (κ : Recast) (row : List Action) : (State.run? t {} row).map (State.recast κ) =
      State.run? t {} (row.map (Action.recast κ)) := (State.recast_run? (s := {}) row).symm
  rw [hrun, hrun, halike]

theorem State.log_eq (hveiled : s'.recast (.veil .same) = s.recast (.veil φ)) :
    s'.log = s.log.map (Entry.recast (.reword φ)) := by
  -- of a recast an entry takes the rewording alone
  have hentry (φ : Rewording) (e : Entry) : e.recast (.veil φ) = e.recast (.reword φ) := by
    cases e <;> rfl
  have hlog := congrArg State.log hveiled
  rw [State.recast_log, State.recast_log, List.map_congr_left fun e _ => hentry .same e,
    List.map_congr_left fun e _ => hentry φ e] at hlog
  exact (List.map_id'' Entry.recast_same s'.log).symm.trans hlog

theorem Alike.resembles (halike : Alike φ actions actions')
    (hveiled : s'.recast (.veil .same) = s.recast (.veil φ)) :
    s.Resembles φ t actions actions' s' where
  veiled := hveiled
  decisions := by
    rw [← s'.recast_decisions (κ := .veil .same), hveiled, State.recast_decisions]
  metrics := by simpa using congrArg State.metrics hveiled
  log := State.log_eq hveiled
  shown := by
    rw [State.log_eq hveiled, List.map_map]
    exact List.map_congr_left fun e _ => e.shown_recast φ
  tokens i := by
    have hplace := congrArg (fun row => (tokenAt row i).map Token.text) halike
    simp only [tokenAt_recast, Option.map_map] at hplace
    exact hplace
  passes f := by
    rw [← s'.recast_flightText (κ := .veil .same), hveiled, State.recast_flightText]
  text :=
    calc s'.text = (s'.recast (.veil .same)).text :=
          s'.text_same.symm.trans (s'.recast_text .same).symm
      _ = (s.recast (.veil φ)).text := by rw [hveiled]
      _ = (s.recast (.reword φ)).text := s.recast_text φ
  returns := halike.returns

/-- Of two alike rows both can be run or neither, and the states resemble each other. -/
theorem Alike.runs_resemble (halike : Alike φ actions actions') :
    Option.Rel (State.Resembles φ t actions actions') (State.run? t {} actions)
      (State.run? t {} actions') := by
  have hrun := halike.run_eq (t := t)
  cases h : State.run? t {} actions with
  | none =>
    rw [h] at hrun
    rw [Option.map_eq_none_iff.mp hrun]
    exact .none
  | some s =>
    rw [h] at hrun
    obtain ⟨s', h', hveiled⟩ := Option.map_eq_some_iff.mp hrun
    rw [h']
    exact .some (halike.resembles hveiled)

/-- A token is acquired, kept through a renewal that fails, and replaced by one that succeeds. -/
def exchangedRow (first second claims : String) : List Action :=
  [.call { claims } .async false true, .decide 0 ⟨0⟩, .enter 0, .ask 0,
    .answer 0 (.ok (.ofText first ⟨600000000000⟩)), .close 0,
    .call { claims } .async false true, .decide 1 ⟨400000000000⟩, .launch 1,
    .begin 0, .askRenewal 0, .answerRenewal 0 (.error (.unavailable "down")) ⟨400000000000⟩,
    .closeRenewal 0, .call { claims } .async false true, .decide 2 ⟨430000000000⟩,
    .launch 2, .begin 1, .askRenewal 1,
    .answerRenewal 1 (.ok (.ofText second ⟨900000000000⟩)) ⟨430000000000⟩, .closeRenewal 1,
    .call { claims } .async false true, .decide 3 ⟨430000000000⟩]

theorem runs_resemble_exchangedRow : ∃ s s',
    State.run? {} {} (exchangedRow "T1" "T2" "A") = some s ∧
    State.run? {} {} (exchangedRow "S1" "S2" "B") = some s' ∧
    s.Resembles (.ofInjective (Equiv.swap "A" "B") (Equiv.injective _)) {}
      (exchangedRow "T1" "T2" "A") (exchangedRow "S1" "S2" "B") s' ∧
    State.returns {} {} (exchangedRow "T1" "T2" "A") =
      [(0, "Bearer T1"), (1, "Bearer T1"), (2, "Bearer T1"), (3, "Bearer T2")] ∧
    State.returns {} {} (exchangedRow "S1" "S2" "B") =
      [(0, "Bearer S1"), (1, "Bearer S1"), (2, "Bearer S1"), (3, "Bearer S2")] := by
  have halike : Alike (.ofInjective (Equiv.swap "A" "B") (Equiv.injective _))
      (exchangedRow "T1" "T2" "A") (exchangedRow "S1" "S2" "B") := rfl
  obtain ⟨s, s', h, h'⟩ : ∃ s s', State.run? {} {} (exchangedRow "T1" "T2" "A") = some s ∧
      State.run? {} {} (exchangedRow "S1" "S2" "B") = some s' := ⟨_, _, rfl, rfl⟩
  have hruns := Alike.runs_resemble (t := {}) halike
  rw [h, h'] at hruns
  cases hruns with
  | some hs => exact ⟨s, s', h, h', hs, rfl, rfl⟩

end Cache

end BearerTokens
