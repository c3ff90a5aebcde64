import BearerTokens.Proofs.Cache.Drivers
import BearerTokens.Proofs.Cache.Parts

/-! # Attempts and ends

Each acquisition that begins is counted once as an attempt and once by how it ended, with two
exceptions.  A call that is dropped, or whose credential breaks off, while it waits for an answer ends
without a count.  A renewal that never runs, for want of a runtime or because it is dropped in the
queue, is counted as it ends and was never counted as an attempt.  Over any row of actions the counts
differ by these exceptions and by the acquisitions that are still under way.
-/

namespace BearerTokens.Cache

/-- The attempt is counted and the end is not. -/
def Call.Point.underway : Call.Point → Bool
  | .calling _ | .asking _ => true
  | _ => false

/-- The renewal has begun, or will not, and its end is not counted. -/
def Renewal.Point.underway : Renewal.Point → Bool
  | .queued | .settled _ => false
  | _ => true

def Happening.counts (m : Mode) (k : Milestone) : Happening → Bool
  | .reported entry => entry == .counted m k
  | _ => false

namespace State

def tally (s : State) (m : Mode) (k : Milestone) : Nat := s.log.count (.counted m k)

def ends (s : State) (m : Mode) : Nat :=
  s.tally m .success + s.tally m .failure + s.tally m .cancelled

def unended (s : State) : Mode → Nat
  | .synchronous => s.calls.countP (·.point.underway)
  | .background => s.renewals.countP (·.point.underway)

/-- By this action a request ends without a count, or a renewal will end that has no attempt. -/
def omits (s : State) : Mode → Action → Bool
  | .synchronous, .crash c | .synchronous, .drop c =>
    match s.calls[c]? with
    | some { point := .asking _, .. } => true
    | _ => false
  | .background, .settle _ _ => true
  | .background, .abandon r =>
    match s.renewals[r]? with
    | some { point := .queued, .. } => true
    | _ => false
  | _, _ => false

def omissions (t : Timing) (m : Mode) : State → List Action → Nat
  | _, [] => 0
  | s, a :: actions =>
    match s.step t a with
    | some x => (s.omits m a).toNat + omissions t m x actions
    | none => 0

variable {t : Timing} {s s' : State} {m : Mode} {k : Milestone} {a : Action}

theorem tally_eq : s.tally m k = s.history.countP (·.counts m k) := by
  rw [tally, log, List.count, List.countP_filterMap]
  congr
  funext line
  cases line <;> rfl

theorem tally_append {lines : List Happening} (h : s'.history = s.history ++ lines) :
    s'.tally m k = s.tally m k + lines.countP (·.counts m k) := by
  rw [tally_eq, tally_eq, h, List.countP_append]

theorem countP_modify {α : Type} (p : α → Bool) (f : α → α) {l : List α} {i : Nat} {a : α}
    (h : l[i]? = some a) : (l.modify i f).countP p + (p a).toNat = l.countP p + (p (f a)).toNat := by
  induction l generalizing i with
  | nil => simp at h
  | cons b l ih =>
    cases i with
    | zero =>
      obtain rfl : b = a := by simpa using h
      cases hb : p b <;> cases hf : p (f b) <;> simp [hb, hf]
    | succ i =>
      have hl := ih (by simpa using h)
      simp only [List.modify_succ_cons, List.countP_cons]
      omega

theorem unended_moveCall {c : CallId} {call : Call} (hc : s.calls[c]? = some call) (p : Call.Point) :
    (s.moveCall c p).unended .synchronous + call.point.underway.toNat =
      s.unended .synchronous + p.underway.toNat :=
  countP_modify (fun call : Call => call.point.underway) _ hc

theorem unended_moveRenewal {r : RenewalId} {renewal : Renewal} (hr : s.renewals[r]? = some renewal)
    (p : Renewal.Point) : (s.moveRenewal r p).unended .background + renewal.point.underway.toNat =
      s.unended .background + p.underway.toNat :=
  countP_modify (fun renewal : Renewal => renewal.point.underway) _ hr

theorem countP_concat {α : Type} (p : α → Bool) (l : List α) (a : α) :
    (l ++ [a]).countP p = l.countP p + (p a).toNat := by
  cases h : p a <;> simp [List.countP_append, h]

theorem countP_modify_of_eq {α : Type} (p : α → Bool) (f : α → α) (hf : ∀ a, p (f a) = p a)
    (l : List α) (i : Nat) : (l.modify i f).countP p = l.countP p := by
  cases h : l[i]? with
  | none =>
    have hlen : l.length ≤ i := List.getElem?_eq_none_iff.mp h
    rw [List.modify_eq_self hlen]
  | some a =>
    have hcount := countP_modify p f h
    rw [hf] at hcount
    exact Nat.add_right_cancel hcount

theorem unended_cancel (c : CallId) : (s.cancel c).unended .synchronous = s.unended .synchronous :=
  countP_modify_of_eq (fun call : Call => call.point.underway)
    (fun call => { call with cancelled := true }) (fun _ => rfl) s.calls c

/-! ## What one action counts -/

def endings (m : Mode) (lines : List Happening) : Nat :=
  lines.countP (·.counts m .success) + lines.countP (·.counts m .failure) +
    lines.countP (·.counts m .cancelled)

theorem ends_append {lines : List Happening} (h : s'.history = s.history ++ lines) :
    s'.ends m = s.ends m + endings m lines := by
  simp only [ends, endings, tally_append h]
  omega

end State

open State

variable {t : Timing} {s s' : State}

/-- A call counts one attempt as it is opened and one end as it is closed, or leaves the end out. -/
theorem Call.Walks.balanced {c : CallId} {call : Call} {a : Action} {p : Point}
    {lines : List Happening} {tally : Metrics → Metrics} (hw : call.Walks t s c a p lines tally)
    (hc : s.calls[c]? = some call) :
    lines.countP (·.counts .synchronous .attempt) + call.point.underway.toNat =
        endings .synchronous lines + p.underway.toNat + (s.omits .synchronous a).toNat ∧
      lines.countP (·.counts .background .attempt) = 0 ∧ endings .background lines = 0 ∧
        s.omits .background a = false := by
  obtain ⟨context, style, inside, hasRuntime, cancelled, point⟩ := call
  cases hw with
  | withdraw _ hp =>
    rcases hp with hp | hp <;> cases hp <;>
      simp [endings, Happening.counts, Point.underway, omits]
  | dropIdle _ hp =>
    rcases hp with hp | ⟨f, hp⟩ <;> cases hp <;>
      simp [endings, Point.underway, omits, hc]
  | enter hp | ask hp | answered hp | unfit hp | refused hp | crash hp | withdrawEarly _ _ hp
  | withdrawWaiting _ hp | again hp | share hp | finish hp | drop _ hp =>
    cases hp
    simp [endings, Happening.counts, Point.underway, omits, hc]

def Uncounted (lines : List Happening) : Prop := ∀ m k, lines.countP (·.counts m k) = 0

theorem Uncounted.endings_eq {lines : List Happening} (h : Uncounted lines) (m : Mode) :
    endings m lines = 0 := by
  simp [endings, h m]

theorem uncounted_nil : Uncounted [] := fun _ _ => rfl

theorem Renewal.Keeps.uncounted {r : RenewalId} {renewal : Renewal} {now : Instant}
    {delay : Duration} {reason : Reason} {error : String} {p : Point} {lines : List Happening}
    (hk : renewal.Keeps r now delay reason error p lines) : Uncounted lines ∧ p.underway = true := by
  cases hk with
  | kept => exact ⟨fun m k => by simp [Happening.counts], rfl⟩
  | lost => exact ⟨uncounted_nil, rfl⟩

theorem Renewal.Starts.uncounted {c : CallId} {call : Call} {r : RenewalId} {renewal : Renewal}
    {a : Action} {p : Point} {q : Call.Point} {lines : List Happening}
    (hs : renewal.Starts t c call r a p q lines) :
    Uncounted lines ∧ p.underway = s.omits .background a ∧ q.underway = false ∧
      s.omits .synchronous a = false := by
  cases hs with
  | hosted => exact ⟨uncounted_nil, rfl, rfl, rfl⟩
  | alone hk => exact ⟨hk.uncounted.1, hk.uncounted.2, rfl, rfl⟩

/-- A renewal counts its attempt as it begins, or leaves it out. -/
theorem Renewal.Walks.balanced {r : RenewalId} {renewal : Renewal} {a : Action} {p : Point}
    {lines : List Happening} (hw : renewal.Walks t r a p lines) (hr : s.renewals[r]? = some renewal) :
    lines.countP (·.counts .background .attempt) + renewal.point.underway.toNat +
        (s.omits .background a).toNat = endings .background lines + p.underway.toNat ∧
      lines.countP (·.counts .synchronous .attempt) = 0 ∧ endings .synchronous lines = 0 ∧
        s.omits .synchronous a = false := by
  obtain ⟨context, previous, source, flight, point⟩ := renewal
  cases hw with
  | @refused fault _ _ lines hp hk =>
    cases hp
    obtain ⟨hkept, hopen⟩ := hk.uncounted
    have hlines : Uncounted (.answered (.renewal r) (.error fault) :: lines) := hkept
    refine ⟨?_, hlines _ _, hlines.endings_eq _, rfl⟩
    rw [hlines, hlines.endings_eq, hopen]
    rfl
  | expire hp hk =>
    cases hp
    obtain ⟨hlines, hopen⟩ := hk.uncounted
    refine ⟨?_, hlines _ _, hlines.endings_eq _, rfl⟩
    rw [hlines, hlines.endings_eq, hopen]
    rfl
  | abandon hp =>
    rcases hp with hp | hp <;> cases hp <;> simp [endings, Point.underway, omits, hr]
  | begin hp | ask hp | answered hp | unfit hp =>
    cases hp
    simp [endings, Happening.counts, Point.underway, omits]

namespace State

/-- The counts when so many ends of calls and so many attempts of renewals have been left out. -/
structure Books (s : State) (lost unbegun : Nat) : Prop where
  synchronous : s.tally .synchronous .attempt =
    s.ends .synchronous + s.unended .synchronous + lost
  background : s.tally .background .attempt + unbegun =
    s.ends .background + s.unended .background

theorem Books.turn {lost unbegun omitted skipped b e d g : Nat} {lines : List Happening}
    (hb : s.Books lost unbegun) (hh : s'.history = s.history ++ lines)
    (hcalls : s'.unended .synchronous + b = s.unended .synchronous + e)
    (hrenewals : s'.unended .background + d = s.unended .background + g)
    (hsync : lines.countP (·.counts .synchronous .attempt) + b =
      endings .synchronous lines + e + omitted)
    (hback : lines.countP (·.counts .background .attempt) + d + skipped =
      endings .background lines + g) : s'.Books (lost + omitted) (unbegun + skipped) := by
  obtain ⟨hs, hr⟩ := hb
  constructor
  · rw [tally_append hh, ends_append hh]
    omega
  · rw [tally_append hh, ends_append hh]
    omega

theorem Books.stay {lost unbegun : Nat} {lines : List Happening} (hb : s.Books lost unbegun)
    (hh : s'.history = s.history ++ lines) (hlines : Uncounted lines)
    (hcalls : s'.unended .synchronous = s.unended .synchronous)
    (hrenewals : s'.unended .background = s.unended .background) : s'.Books lost unbegun := by
  obtain ⟨hs, hr⟩ := hb
  constructor
  · rw [tally_append hh, ends_append hh, hlines, hlines.endings_eq, hcalls]
    exact hs
  · rw [tally_append hh, ends_append hh, hlines, hlines.endings_eq, hrenewals]
    exact hr

/-- One action keeps the books but for the count that it leaves out. -/
theorem Books.step {lost unbegun : Nat} {a : Action} (hb : s.Books lost unbegun)
    (hm : Moves t s a s') : s'.Books (lost + (s.omits .synchronous a).toNat)
      (unbegun + (s.omits .background a).toNat) := by
  cases hm with
  | @call context style inside hasRuntime =>
    refine hb.stay (List.append_nil _).symm uncounted_nil ?_ rfl
    unfold unended State.call
    cases style.refusal? inside hasRuntime <;> simp [Call.Point.underway]
  | cancel => exact hb.stay (List.append_nil _).symm uncounted_nil (unended_cancel _) rfl
  | @decide c call now holding d hc hp =>
    have hlines : Uncounted [.decided c now d] := fun _ _ => rfl
    have hmove := unended_moveCall hc d.leads
    have hopen : d.leads.underway = false := by cases d <;> rfl
    rw [hp, hopen] at hmove
    refine hb.stay (by rw [follow_history, record]) hlines ?_ ?_
    · rw [unended, follow_calls]
      exact Nat.add_right_cancel hmove
    · rw [unended, follow_renewals]
      rfl
  | @walk _ c call p lines tally hc hw =>
    obtain ⟨hcounted, hattempt, hend, homit⟩ := hw.balanced hc
    have hh : (((s.record lines).count tally).moveCall c p).history = s.history ++ lines := rfl
    refine hb.turn (d := 0) (g := 0) hh (unended_moveCall hc p) rfl hcounted ?_
    rw [hattempt, hend, homit]
    rfl
  | @close c call f o exit hc hp =>
    have hlines : Uncounted [.wrote f o] := fun _ _ => rfl
    have hmove := unended_moveCall hc (.done exit)
    rw [hp] at hmove
    exact hb.stay rfl hlines (Nat.add_right_cancel hmove) rfl
  | @launch _ c call f source pass renewal p q lines hc hp hr hs =>
    obtain ⟨hlines, hopen, hdone, homit⟩ := hs.uncounted (s := s)
    have hmove := unended_moveCall hc q
    rw [hp, hdone] at hmove
    have hadd := countP_concat (fun renewal : Renewal => renewal.point.underway) s.renewals
      { renewal with point := p }
    refine hb.turn (d := 0) (show _ = s.history ++ lines from rfl) hmove hadd ?_ ?_
    · rw [hlines, hlines.endings_eq, homit]
      rfl
    · rw [hlines, hlines.endings_eq, hopen]
  | @walkRenewal _ r renewal p lines hr hw =>
    obtain ⟨hcounted, hattempt, hend, homit⟩ := hw.balanced hr
    have hh : ((s.record lines).moveRenewal r p).history = s.history ++ lines := rfl
    refine hb.turn (b := 0) (e := 0) hh rfl (unended_moveRenewal hr p) ?_ hcounted
    rw [hattempt, hend, homit]
    rfl
  | @closeRenewal r renewal o ending hr hp =>
    have hlines : Uncounted [.wrote renewal.flight o] := fun _ _ => rfl
    have hmove := unended_moveRenewal hr (.written ending)
    rw [hp] at hmove
    exact hb.stay rfl hlines rfl (Nat.add_right_cancel hmove)
  | @countRenewal r renewal ending hr hp =>
    have hmove := unended_moveRenewal hr (.settled ending)
    rw [hp] at hmove
    cases ending with
    | succeeded | fellBack | abandoned =>
      exact hb.turn (b := 0) (e := 0) rfl rfl hmove rfl rfl

/-- A row keeps the books but for the counts that its actions leave out. -/
theorem Books.run {lost unbegun : Nat} {actions : List Action} (hb : s.Books lost unbegun)
    (h : s.run? t actions = some s') : s'.Books (lost + omissions t .synchronous s actions)
      (unbegun + omissions t .background s actions) := by
  induction actions generalizing s lost unbegun with
  | nil =>
    cases h
    exact hb
  | cons a actions ih =>
    rw [run?_cons] at h
    obtain ⟨x, hx, h⟩ := Option.bind_eq_some_iff.mp h
    have hrest := ih (hb.step (step_moves hx)) h
    simpa [omissions, hx, Nat.add_assoc] using hrest

/-! ## Rows from an empty cache -/

/-- An acquisition in this role is under way: it has a flight to fill, or an end to count. -/
def Live (s : State) (m : Mode) : Prop :=
  (∃ q f, s.drives? q = some (m, f)) ∨ m = .background ∧
    ∃ (r : RenewalId) (renewal : Renewal) (ending : Ending),
      s.renewals[r]? = some renewal ∧ renewal.point = .written ending

theorem unended_eq_zero {m : Mode} (h : ¬ s.Live m) : s.unended m = 0 := by
  cases m with
  | synchronous =>
    refine List.countP_eq_zero.mpr fun call hmem hopen => h ?_
    obtain ⟨c, hc⟩ := List.mem_iff_getElem?.mp hmem
    cases hp : call.point with
    | calling f | asking f =>
      exact .inl ⟨.call c, f, by simp [drives?, hc, hp, Call.Point.drives?]⟩
    | _ => simp [hp, Call.Point.underway] at hopen
  | background =>
    refine List.countP_eq_zero.mpr fun renewal hmem hopen => h ?_
    obtain ⟨r, hr⟩ := List.mem_iff_getElem?.mp hmem
    cases hp : renewal.point with
    | calling | asking | closing =>
      exact .inl ⟨.renewal r, renewal.flight, by simp [drives?, hr, Renewal.drives?, hp]⟩
    | written ending => exact .inr ⟨rfl, r, renewal, ending, hr, hp⟩
    | queued | settled => simp [hp, Renewal.Point.underway] at hopen

structure Balances (t : Timing) (actions : List Action) (s : State) : Prop where
  synchronous : s.tally .synchronous .attempt =
    s.ends .synchronous + s.unended .synchronous + omissions t .synchronous {} actions
  background : s.tally .background .attempt + omissions t .background {} actions =
    s.ends .background + s.unended .background
  at_most : s.ends .synchronous ≤ s.tally .synchronous .attempt
  begun : omissions t .background {} actions = 0 → s.ends .background ≤ s.tally .background .attempt
  settled (m : Mode) : ¬ s.Live m →
    (s.ends m = s.tally m .attempt ↔ omissions t m {} actions = 0)

/-- No call ends more often than it was attempted, and once nothing is under way attempts and ends
agree exactly when no action has left a count out. -/
theorem balances {actions : List Action} (h : State.run? t {} actions = some s) :
    s.Balances t actions := by
  have hstart : Books {} 0 0 := ⟨rfl, rfl⟩
  obtain ⟨hsync, hback⟩ := hstart.run h
  rw [Nat.zero_add] at hsync hback
  refine ⟨hsync, hback, by omega, fun hbegun => by omega, fun m hlive => ?_⟩
  have hnone := unended_eq_zero hlive
  cases m <;> omega

end State

def strandedRow : List Action :=
  [.call {} .async false true, .decide 0 ⟨0⟩, .enter 0, .ask 0, .drop 0, .close 0]

theorem balances_strandedRow : ∃ s, State.run? {} {} strandedRow = some s ∧
    s.Balances {} strandedRow := by
  obtain ⟨s, h⟩ : ∃ s, State.run? {} {} strandedRow = some s := ⟨_, rfl⟩
  exact ⟨s, h, State.balances h⟩

def unhostedRow : List Action :=
  [.call {} .async false false, .decide 0 ⟨0⟩, .enter 0, .ask 0,
    .answer 0 (.ok (.ofText "T1" ⟨600000000000⟩)), .close 0,
    .call {} .async false false, .decide 1 ⟨400000000000⟩, .settle 1 ⟨400000000000⟩,
    .closeRenewal 0, .countRenewal 0, .finish 1]

/-- In neither role do the counts always balance. -/
theorem not_always_balanced :
    (¬ ∀ (t : Timing) (actions : List Action) (s : State), State.run? t {} actions = some s →
      ¬ s.Live .synchronous → s.ends .synchronous = s.tally .synchronous .attempt) ∧
    ¬ ∀ (t : Timing) (actions : List Action) (s : State), State.run? t {} actions = some s →
      s.ends .background ≤ s.tally .background .attempt := by
  constructor
  · intro hall
    obtain ⟨s, h, hcalls, hrenewals, hends, hattempt⟩ : ∃ s, State.run? {} {} strandedRow = some s ∧
        s.calls.map (·.point.drives?) = [none] ∧ s.renewals = [] ∧ s.ends .synchronous = 0 ∧
          s.tally .synchronous .attempt = 1 := ⟨_, rfl, rfl, rfl, by decide, by decide⟩
    have hidle : ¬ s.Live .synchronous := by
      rintro (⟨q, f, hq⟩ | ⟨hmode, -⟩)
      · cases q with
        | call c =>
          obtain ⟨call, hc, hp⟩ := Option.bind_eq_some_iff.mp hq
          have hmem := List.mem_map_of_mem (f := fun call : Call => call.point.drives?)
            (List.mem_of_getElem? hc)
          rw [hcalls, hp] at hmem
          simp at hmem
        | renewal r => simp [State.drives?, hrenewals] at hq
      · cases hmode
    have heq := hall {} strandedRow s h hidle
    rw [hends, hattempt] at heq
    cases heq
  · intro hall
    obtain ⟨s, h, hends, hattempt⟩ : ∃ s, State.run? {} {} unhostedRow = some s ∧
        s.ends .background = 1 ∧ s.tally .background .attempt = 0 :=
      ⟨_, rfl, by decide, by decide⟩
    have hle := hall {} unhostedRow s h
    rw [hends, hattempt] at hle
    cases hle

end BearerTokens.Cache
