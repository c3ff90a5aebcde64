import BearerTokens.Proofs.Cache.Cycles
import BearerTokens.Proofs.Cache.Promptness
import Mathlib.Data.List.Find

/-! # When a renewal is tried again

Nowhere is it stored when a failed renewal is to be tried again.  A renewal that keeps the previous
pass writes it with a new instant, and the next call promotes it; one that was given up leaves the
previous pass in use with its old instant.  Either way, and until another acquisition, the next
renewal is started by the first call for an equivalent context that decides from that instant on and
before the pass expires.
-/

namespace BearerTokens

def Reason.delay (t : Timing) : Reason → Duration
  | .timeout => .zero
  | .failure | .noRuntime => t.retry

namespace Cache

variable {t : Timing} {s s' x y z : State} {stored context : Context} {expiry due now : Instant}

/-! ## Calls that decide on a pass -/

namespace Holding

/-- What is served is due at the instant, once the renewal on standby is settled. -/
inductive Poised (outcome? : FlightId → Option Outcome) (stored : Context) (expiry due : Instant)
    (h : Holding) : Prop where
  | alone {held : Context} {g : FlightId} {p : Pass} (hc : h.context = some held)
      (he : held.Equivalent stored) (hg : h.current = some g) (ho : outcome? g = some (.ready p))
      (hexpiry : p.expiry = expiry) (hdue : p.renewal = due) (hs : h.standby = none) :
      Poised outcome? stored expiry due h
  | forgone {held : Context} {f g : FlightId} {p : Pass} (hc : h.context = some held)
      (he : held.Equivalent stored) (hg : h.current = some g) (ho : outcome? g = some (.ready p))
      (hexpiry : p.expiry = expiry) (hdue : p.renewal = due) (hs : h.standby = some f)
      (hf : outcome? f = some .cancelled) : Poised outcome? stored expiry due h
  | deferred {held : Context} {f g : FlightId} {p q : Pass} (hc : h.context = some held)
      (he : held.Equivalent stored) (hg : h.current = some g) (ho : outcome? g = some (.ready q))
      (hold : q.expiry = expiry) (hs : h.standby = some f) (hf : outcome? f = some (.ready p))
      (hexpiry : p.expiry = expiry) (hdue : p.renewal = due) : Poised outcome? stored expiry due h

variable {outcome? : FlightId → Option Outcome} {next : FlightId} {h h' m : Holding} {d : Decision}

theorem Poised.held (hp : h.Poised outcome? stored expiry due) : ∃ held g q,
    h.context = some held ∧ held.Equivalent stored ∧ h.current = some g ∧
      outcome? g = some (.ready q) := by
  cases hp with
  | alone hc he hg ho | forgone hc he hg ho | deferred hc he hg ho => exact ⟨_, _, _, hc, he, hg, ho⟩

/-- A call finds a pass with the expiry, and before it nothing beside. -/
theorem Poised.promotes (hp : h.Poised outcome? stored expiry due)
    (hm : Promotes outcome? now h m) : ∃ g p, m.current = some g ∧ outcome? g = some (.ready p) ∧
      p.expiry = expiry ∧ (now < expiry → p.renewal = due ∧ m.standby = none) := by
  cases hp with
  | alone hc he hg ho hexpiry hdue hs =>
    cases hm with
    | kept => exact ⟨_, _, hg, ho, hexpiry, fun _ => ⟨hdue, hs⟩⟩
    | promoted hs' | forgotten hs' => cases hs.symm.trans hs'
  | forgone hc he hg ho hexpiry hdue hs hf =>
    cases hm with
    | kept hk => exact absurd rfl (hk _ _ hs hf).1
    | promoted hs' hf' =>
      cases hs.symm.trans hs'
      cases hf.symm.trans hf'
    | forgotten => exact ⟨_, _, hg, ho, hexpiry, fun _ => ⟨hdue, rfl⟩⟩
  | deferred hc he hg ho hold hs hf hexpiry hdue =>
    cases hm with
    | kept hk =>
      refine ⟨_, _, hg, ho, hold, fun hlt => ?_⟩
      have hle := Pass.expiredAt_iff.mp ((hk _ _ hs hf).2 _ rfl)
      rw [hexpiry] at hle
      exact absurd hlt (Int.not_lt.mpr hle)
    | promoted hs' hf' =>
      cases hs.symm.trans hs'
      cases hf.symm.trans hf'
      exact ⟨_, _, rfl, hf, hexpiry, fun _ => ⟨hdue, rfl⟩⟩
    | forgotten hs' hf' =>
      cases hs.symm.trans hs'
      cases hf.symm.trans hf'

/-- What is served has the expiry and the instant. -/
theorem Poised.serves {source : FlightId} {pass : Pass} (hp : h.Poised outcome? stored expiry due)
    (hm : Promotes outcome? now h m) (hu : m.usable outcome? now = some (source, pass)) :
    now < expiry ∧ pass.expiry = expiry ∧ pass.renewal = due ∧ m.standby = none := by
  obtain ⟨g, p, hcur, hready, hexpiry, hafter⟩ := hp.promotes hm
  obtain ⟨hcur', hready', hgood⟩ := usable_eq_some.mp hu
  cases hcur.symm.trans hcur'
  cases hready.symm.trans hready'
  have hlt : now < expiry := hexpiry ▸ Pass.expiredAt_eq_false_iff.mp hgood
  exact ⟨hlt, hexpiry, hafter hlt⟩

/-- A call renews exactly when it is for an equivalent context, in time and due. -/
theorem Decides.poised (hd : h.Decides outcome? next context now h' d)
    (hp : h.Poised outcome? stored expiry due) :
    ((∃ f source pass, d = .renew f source pass) ↔
        stored.Equivalent context ∧ now < expiry ∧ due ≤ now) ∧
      ((∃ f, d = .acquire f) ∨ (∃ f source pass, d = .renew f source pass) ∨
        h'.Poised outcome? stored expiry due) := by
  obtain ⟨held, g, q, hc, he, hg, ho⟩ := hp.held
  cases hd with
  | anew hn =>
    refine ⟨iff_of_false (by simp) fun hdue => ?_, .inl ⟨_, rfl⟩⟩
    exact hn held g hc hg (he.trans hdue.1)
  | wait _ _ hf hopen =>
    cases hg.symm.trans hf
    cases ho.symm.trans hopen
  | lapsed _ _ _ _ hm hu =>
    refine ⟨iff_of_false (by simp) fun hdue => ?_, .inl ⟨_, rfl⟩⟩
    obtain ⟨g', p, hcur, hready, hexpiry, -⟩ := hp.promotes hm
    have hgood : p.expiredAt now = false := Pass.expiredAt_eq_false_iff.mpr (hexpiry ▸ hdue.2.1)
    rw [usable_eq_some.mpr ⟨hcur, hready, hgood⟩] at hu
    cases hu
  | renew hc' he' _ _ hm hu hd' =>
    obtain ⟨hlt, -, hdue, -⟩ := hp.serves hm hu
    cases hc.symm.trans hc'
    refine ⟨iff_of_true ⟨_, _, _, rfl⟩ ⟨he.symm.trans he', hlt, ?_⟩, .inr (.inl ⟨_, _, _, rfl⟩)⟩
    simpa [Pass.dueAt, hdue] using hd'
  | serve _ _ _ _ hm hu hd' =>
    obtain ⟨-, hexpiry, hdue, hnone⟩ := hp.serves hm hu
    obtain ⟨hcur, hready, -⟩ := usable_eq_some.mp hu
    refine ⟨iff_of_false (by simp) fun hripe => ?_, .inr (.inr ?_)⟩
    · exact hd' (by simpa [Pass.dueAt, hdue] using hripe.2.2) hnone
    · exact .alone (hm.context_eq.trans hc) he hcur hready hexpiry hdue hnone

theorem Poised.mono {outcome'? : FlightId → Option Outcome}
    (hp : h.Poised outcome? stored expiry due)
    (ho : ∀ f o, outcome? f = some o → outcome'? f = some o) :
    h.Poised outcome'? stored expiry due := by
  cases hp with
  | alone hc he hg hq hexpiry hdue hs => exact .alone hc he hg (ho _ _ hq) hexpiry hdue hs
  | forgone hc he hg hq hexpiry hdue hs hf =>
    exact .forgone hc he hg (ho _ _ hq) hexpiry hdue hs (ho _ _ hf)
  | deferred hc he hg hq hold hs hf hexpiry hdue =>
    exact .deferred hc he hg (ho _ _ hq) hold hs (ho _ _ hf) hexpiry hdue

end Holding

/-! ## The first call of a stretch that renews -/

def Happening.acquires : Happening → Bool
  | .decided _ _ (.acquire _) => true
  | _ => false

def Happening.renews : Happening → Bool
  | .decided _ _ (.renew _ _ _) => true
  | _ => false

namespace State

def since (s x : State) : List Happening := s.history.drop x.history.length

/-- The line is the decision of a call for an equivalent context, in time and due. -/
def ripe (s : State) (stored : Context) (expiry due : Instant) : Happening → Bool
  | .decided c now _ => (s.calls[c]?).any fun call =>
      decide (stored.Equivalent call.context ∧ now < expiry ∧ due ≤ now)
  | _ => false

/-- Until another acquisition the next renewal is started by the first call that is for an equivalent
context and decides from the instant on, but before the expiry. -/
def Awaits (t : Timing) (x : State) (stored : Context) (expiry due : Instant) : Prop :=
  ∀ actions y a z, x.run? t actions = some y → y.step t a = some z →
    (∀ line ∈ y.since x, line.acquires = false) →
      (z.since x).find? Happening.renews = (z.since x).find? (z.ripe stored expiry due)

theorem since_self : x.since x = [] := List.drop_length

theorem since_append {lines : List Happening} (he : Extends x y)
    (hh : z.history = y.history ++ lines) : z.since x = y.since x ++ lines := by
  rw [since, hh, List.drop_append_of_le_length he.history.length_le]
  rfl

theorem ripe_decided {c : CallId} {call : Call} {d : Decision} (hc : s.calls[c]? = some call) :
    s.ripe stored expiry due (.decided c now d) = true ↔
      stored.Equivalent call.context ∧ now < expiry ∧ due ≤ now := by
  simp [ripe, hc]

/-- Whether a line is ripe does not change. -/
theorem ripe_congr (hr : Reachable t y) (he : Extends y z) {line : Happening}
    (hl : line ∈ y.history) : z.ripe stored expiry due line = y.ripe stored expiry due line := by
  cases line with
  | decided c now d =>
    obtain ⟨call, hc⟩ : ∃ call, y.calls[c]? = some call :=
      ⟨_, List.getElem?_eq_getElem (hr.decided_call hl)⟩
    obtain ⟨call', hc', hcontext, -⟩ := he.call c call hc
    simp [ripe, hc, hc', hcontext]
  | _ => rfl

theorem find?_renews {lines : List Happening} (he : Extends x y)
    (hh : z.history = y.history ++ lines) : (z.since x).find? Happening.renews =
      ((y.since x).find? Happening.renews).or (lines.find? Happening.renews) := by
  rw [since_append he hh, List.find?_append]

theorem find?_ripe {lines : List Happening} (hr : Reachable t y) (he : Extends x y) (he' : Extends y z)
    (hh : z.history = y.history ++ lines) (stored : Context) (expiry due : Instant) :
    (z.since x).find? (z.ripe stored expiry due) =
      ((y.since x).find? (y.ripe stored expiry due)).or
        (lines.find? (z.ripe stored expiry due)) := by
  have hripe : (y.since x).find? (z.ripe stored expiry due) =
      (y.since x).find? (y.ripe stored expiry due) :=
    List.find?_congr fun line hl => ripe_congr hr he' (List.mem_of_mem_drop hl)
  rw [since_append he hh, List.find?_append, hripe]

/-- Only a decision adds a decision, or changes what is held. -/
theorem Moves.quiet {a : Action} (hs : s.Matched) (hm : Moves t s a s')
    (ha : ∀ c now, a ≠ .decide c now) : s'.holding = s.holding ∧ ∃ lines,
      s'.history = s.history ++ lines ∧ ∀ c now d, .decided c now d ∉ lines := by
  constructor
  · cases hm.holdingFrom with
    | same hh => exact hh
    | decided => exact absurd rfl (ha _ _)
  · cases hm.historyFrom hs with
    | decided => exact absurd rfl (ha _ _)
    | wrote hh => exact ⟨_, hh, by simp⟩
    | aside hl hh => exact ⟨_, hh, fun c now d hmem => hl _ hmem⟩

theorem undecided_none {lines : List Happening} (hl : ∀ c now d, .decided c now d ∉ lines)
    (s : State) (stored : Context) (expiry due : Instant) :
    lines.find? Happening.renews = none ∧ lines.find? (s.ripe stored expiry due) = none := by
  constructor <;> refine List.find?_eq_none.mpr fun line hmem => ?_
  all_goals cases line with
    | decided c now d => exact absurd hmem (hl c now d)
    | _ => exact Bool.false_ne_true

/-- Nothing ripe has come yet and the pass is poised, or the first that came has renewed. -/
inductive Bides (x y : State) (stored : Context) (expiry due : Instant) : Prop where
  | still (hp : y.holding.Poised y.outcome? stored expiry due)
      (hn : (y.since x).find? Happening.renews = none)
      (hn' : (y.since x).find? (y.ripe stored expiry due) = none) : Bides x y stored expiry due
  | renewed {line : Happening} (hf : (y.since x).find? Happening.renews = some line)
      (hf' : (y.since x).find? (y.ripe stored expiry due) = some line) : Bides x y stored expiry due

theorem Bides.agree (hb : x.Bides y stored expiry due) :
    (y.since x).find? Happening.renews = (y.since x).find? (y.ripe stored expiry due) := by
  cases hb with
  | still _ hn hn' => rw [hn, hn']
  | renewed hf hf' => rw [hf, hf']

/-- A call that decides on a poised pass renews if it is ripe, and else leaves the pass poised. -/
theorem Bides.step_decide {c : CallId} (hr : Reachable t y) (he : Extends x y)
    (hp : y.holding.Poised y.outcome? stored expiry due)
    (hn : (y.since x).find? Happening.renews = none)
    (hn' : (y.since x).find? (y.ripe stored expiry due) = none)
    (hm : Moves t y (.decide c now) z) :
    (∃ line ∈ z.since x, line.acquires = true) ∧
        (z.since x).find? Happening.renews = (z.since x).find? (z.ripe stored expiry due) ∨
      x.Bides z stored expiry due := by
  obtain ⟨call, d, -, -, hd, hc, hh⟩ := hm.decided
  obtain ⟨hiff, hnext⟩ := hd.poised hp
  have hripe : z.ripe stored expiry due (.decided c now d) = Happening.renews (.decided c now d) := by
    rw [Bool.eq_iff_iff, ripe_decided hc, ← hiff]
    cases d <;> simp [Happening.renews]
  have hfirst := find?_renews he hh
  have hfirst' := find?_ripe hr he hm.extends hh stored expiry due
  rw [hn, Option.none_or, List.find?_singleton] at hfirst
  rw [hn', Option.none_or, List.find?_singleton, hripe] at hfirst'
  rcases hnext with ⟨f, rfl⟩ | ⟨f, source, pass, rfl⟩ | hpoised
  · have hmem : .decided c now (.acquire f) ∈ z.since x := by simp [since_append he hh]
    exact .inl ⟨⟨_, hmem, rfl⟩, hfirst.trans hfirst'.symm⟩
  · exact .inr (.renewed hfirst hfirst')
  · cases hrenews : Happening.renews (.decided c now d) with
    | true =>
      rw [hrenews] at hfirst hfirst'
      exact .inr (.renewed hfirst hfirst')
    | false =>
      rw [hrenews] at hfirst hfirst'
      exact .inr (.still (hpoised.mono fun f o ho => hm.extends.outcome ho) hfirst hfirst')

theorem Bides.step {a : Action} (hb : x.Bides y stored expiry due) (hr : Reachable t y)
    (he : Extends x y) (hm : Moves t y a z) :
    (∃ line ∈ z.since x, line.acquires = true) ∧
        (z.since x).find? Happening.renews = (z.since x).find? (z.ripe stored expiry due) ∨
      x.Bides z stored expiry due := by
  cases hb with
  | still hp hn hn' =>
    by_cases ha : ∃ c now, a = .decide c now
    · obtain ⟨c, now, rfl⟩ := ha
      exact Bides.step_decide hr he hp hn hn' hm
    · obtain ⟨hholding, lines, hh, hl⟩ := hm.quiet hr.matched fun c now he => ha ⟨c, now, he⟩
      obtain ⟨hlines, hlines'⟩ := undecided_none hl z stored expiry due
      have hstill : z.holding.Poised z.outcome? stored expiry due := by
        rw [hholding]
        exact hp.mono fun f o ho => hm.extends.outcome ho
      refine .inr (.still hstill ?_ ?_)
      · rw [find?_renews he hh, hn, hlines]
        rfl
      · rw [find?_ripe hr he hm.extends hh, hn', hlines']
        rfl
  | @renewed line hf hf' =>
    obtain ⟨lines, hh⟩ := hm.extends.history
    have hfirst : (z.since x).find? Happening.renews = some line := by
      rw [find?_renews he hh.symm, hf]
      rfl
    have hfirst' : (z.since x).find? (z.ripe stored expiry due) = some line := by
      rw [find?_ripe hr he hm.extends hh.symm, hf']
      rfl
    exact .inr (.renewed hfirst hfirst')

theorem since_mono {line : Happening} (he : Extends x y) (he' : Extends y z) (hl : line ∈ y.since x) :
    line ∈ z.since x := by
  obtain ⟨lines, hh⟩ := he'.history
  rw [since_append he hh.symm]
  exact List.mem_append_left _ hl

end State

open State

/-- A poised pass is renewed by the first ripe call. -/
theorem Reachable.awaits (hr : Reachable t x) (hp : x.holding.Poised x.outcome? stored expiry due) :
    x.Awaits t stored expiry due := by
  intro actions y a z hrun hstep hacquires
  have hbides : x.Bides y stored expiry due := by
    refine run_induction_on (P := fun _ w => (∀ line ∈ w.since x, line.acquires = false) →
      x.Bides w stored expiry due) hrun ?_ (fun before b u v _ hu hv _ ih hn => ?_) hacquires
    · exact fun _ => .still hp (by rw [since_self]; rfl) (by rw [since_self]; rfl)
    · have hextends := run_extends hu
      have hm := step_moves hv
      have hold := ih fun line hl => hn line (since_mono hextends hm.extends hl)
      rcases hold.step (hr.run hu) hextends hm with ⟨⟨line, hl, hline⟩, -⟩ | hb
      · rw [hn line hl] at hline
        cases hline
      · exact hb
  rcases hbides.step (hr.run hrun) (run_extends hrun) (step_moves hstep) with ⟨-, hagree⟩ | hb
  · exact hagree
  · exact hb.agree

/-! ## While a renewal is under way -/

theorem Holding.Decides.pending {outcome? : FlightId → Option Outcome} {next f : FlightId}
    {h h' : Holding} {d : Decision} (hd : h.Decides outcome? next context now h' d)
    (hs : h.standby = some f) (ho : outcome? f = none) : (∃ g, d = .acquire g) ∨
      h'.standby = some f ∧ ∀ g source pass, d ≠ .renew g source pass := by
  have hkept : ∀ {m}, Promotes outcome? now h m → m = h := by
    intro m hm
    cases hm with
    | kept => rfl
    | promoted hs' ho' | forgotten hs' ho' =>
      cases hs.symm.trans hs'
      cases ho.symm.trans ho'
  cases hd with
  | anew | lapsed => exact .inl ⟨_, rfl⟩
  | wait => exact .inr ⟨hs, nofun⟩
  | renew _ _ _ _ hm _ _ hnone =>
    rw [hkept hm] at hnone
    cases hs.symm.trans hnone
  | serve _ _ _ _ hm =>
    rw [hkept hm]
    exact .inr ⟨hs, nofun⟩

/-- Until its flight has an outcome a renewal stays on standby, and no call starts another. -/
theorem Reachable.pending (hr : Reachable t x) {f : FlightId} (hs : x.holding.standby = some f)
    {actions : List Action} (hrun : x.run? t actions = some y) (ho : y.outcome? f = none)
    (hacquires : ∀ line ∈ y.since x, line.acquires = false) :
    y.holding.standby = some f ∧ ∀ line ∈ y.since x, line.renews = false := by
  refine run_induction_on (P := fun _ w => w.outcome? f = none →
    (∀ line ∈ w.since x, line.acquires = false) →
      w.holding.standby = some f ∧ ∀ line ∈ w.since x, line.renews = false)
    hrun (fun _ _ => ⟨hs, by simp [since_self]⟩) (fun before a u v _ hu hv _ ih ho hn => ?_) ho hacquires
  have hextends := run_extends hu
  have hm := step_moves hv
  have hopen : u.outcome? f = none := by
    cases hu' : u.outcome? f with
    | none => rfl
    | some o => rw [hm.extends.outcome hu'] at ho; cases ho
  obtain ⟨hstandby, hold⟩ := ih hopen fun line hl => hn line (since_mono hextends hm.extends hl)
  by_cases ha : ∃ c now, a = .decide c now
  · obtain ⟨c, now, rfl⟩ := ha
    obtain ⟨call, d, -, -, hd, -, hh⟩ := hm.decided
    have hsince := since_append hextends hh
    rcases hd.pending hstandby hopen with ⟨g, rfl⟩ | ⟨hstandby', hd'⟩
    · cases hn (.decided c now (.acquire g)) (by simp [hsince])
    · refine ⟨hstandby', fun line hl => ?_⟩
      rw [hsince] at hl
      rcases List.mem_append.mp hl with hl | hl
      · exact hold line hl
      · obtain rfl := List.mem_singleton.mp hl
        cases d with
        | renew g source pass => exact absurd rfl (hd' g source pass)
        | _ => rfl
  · obtain ⟨hholding, lines, hh, hl⟩ := hm.quiet (hr.run hu).matched fun c now he => ha ⟨c, now, he⟩
    refine ⟨by rw [hholding]; exact hstandby, fun line hmem => ?_⟩
    rw [since_append hextends hh] at hmem
    rcases List.mem_append.mp hmem with hmem | hmem
    · exact hold line hmem
    · cases line with
      | decided c now d => exact absurd hmem (hl c now d)
      | _ => rfl

/-! ## Renewals that keep their pass -/

section Keeps

variable {r : RenewalId} {renewal : Renewal} {f : Instant} {reason : Reason} {o : Outcome}
  {ending : Ending}

theorem Renewal.Keeps.line_eq {delay : Duration} {reason' : Reason} {error : String} {i : RenewalId}
    {p : Point} {lines : List Happening} (hk : renewal.Keeps r now delay reason' error p lines)
    (hl : .kept i f reason ∈ lines) : i = r ∧ f = now ∧ reason = reason' := by
  cases hk with
  | kept => simpa using hl
  | lost => simp at hl

theorem Renewal.Keeps.deferred {delay : Duration} {error : String} {lines : List Happening}
    (hk : renewal.Keeps r f delay reason error (.closing o ending) lines)
    (hl : .kept r f reason ∈ lines) : ∃ pass, o = .ready pass ∧
      f.after? delay = some pass.renewal ∧ pass.expiry = renewal.previous.expiry := by
  cases hk with
  | kept hd =>
    obtain ⟨due, hdue, rfl⟩ := Option.map_eq_some_iff.mp hd
    exact ⟨_, rfl, hdue, rfl⟩
  | lost => simp at hl

/-- A line about a kept pass is old, or the renewal keeps its pass by this action. -/
theorem State.Moves.kept_from {a : Action} (hm : Moves t s a s')
    (hl : .kept r f reason ∈ s'.history) : .kept r f reason ∈ s.history ∨
      ∃ (before : Renewal) (error : String) (p : Renewal.Point) (lines : List Happening),
        before.Keeps r f (reason.delay t) reason error p lines ∧ .kept r f reason ∈ lines ∧
          s'.renewals[r]? = some { before with point := p } := by
  cases hm.lineFrom hl with
  | same hl => exact .inl hl
  | walked _ hw hl => cases hw <;> simp at hl
  | started _ _ _ hs hl hnew =>
    cases hs with
    | hosted => simp at hl
    | alone hk =>
      obtain ⟨hi, rfl, rfl⟩ := hk.line_eq hl
      exact .inr ⟨_, _, _, _, hi ▸ hk, hl, hi ▸ hnew⟩
  | walkedRenewal _ hw hl hafter =>
    cases hw with
    | refused _ hk =>
      have hl' := (List.mem_cons.mp hl).resolve_left nofun
      obtain ⟨rfl, rfl, rfl⟩ := hk.line_eq hl'
      exact .inr ⟨_, _, _, _, hk, hl', hafter⟩
    | expire _ hk =>
      obtain ⟨rfl, rfl, rfl⟩ := hk.line_eq hl
      exact .inr ⟨_, _, _, _, hk, hl, hafter⟩
    | begin | ask | answered | unfit | abandon => simp at hl

/-- A renewal that has kept its pass goes on to write it and nothing else. -/
theorem Reachable.kept_closing_old {a : Action} (hr : Reachable t s) (hm : Moves t s a s')
    (hl : .kept r f reason ∈ s.history) (h : s'.renewals[r]? = some renewal)
    (hp : renewal.point = .closing o ending) : s.renewals[r]? = some renewal := by
  obtain ⟨before, hb, he⟩ := hr.kept_ends hl
  cases hm.renewalFrom h with
  | same hi => exact hi
  | started => simp at hb
  | walked hi hw =>
    cases hb.symm.trans hi
    cases hw with
    | begin hq | ask hq | answered hq | unfit hq | refused hq | expire hq =>
      rw [hq] at he
      cases he
    | abandon hq => rcases hq with hq | hq <;> (rw [hq] at he; cases he)
  | closed | counted => cases hp

/-- A renewal that kept its pass writes it with the instant that follows from the reason. -/
theorem Reachable.kept_closing (hr : Reachable t s) (hl : .kept r f reason ∈ s.history)
    (h : s.renewals[r]? = some renewal) (hp : renewal.point = .closing o ending) :
    ∃ pass, o = .ready pass ∧ f.after? (reason.delay t) = some pass.renewal ∧
      pass.expiry = renewal.previous.expiry := by
  refine hr.induct (P := fun x => .kept r f reason ∈ x.history → ∀ renewal : Renewal,
    x.renewals[r]? = some renewal → renewal.point = .closing o ending → ∃ pass, o = .ready pass ∧
      f.after? (reason.delay t) = some pass.renewal ∧ pass.expiry = renewal.previous.expiry)
    (by simp) (fun a x y hx hm ih => ?_) hl renewal h hp
  intro hl renewal h hp
  rcases hm.kept_from hl with hl | ⟨before, error, p, lines, hk, hl, hafter⟩
  · exact ih hl renewal (hx.kept_closing_old hm hl h hp) hp
  · cases h.symm.trans hafter
    subst hp
    exact hk.deferred hl

/-- What a renewal that ends with its previous pass has in the history. -/
theorem Renewal.Keeps.kept_line {delay : Duration} {error : String} {p : Point}
    {lines : List Happening} (hk : renewal.Keeps r now delay reason error p lines)
    (he : p.ending? = some .fellBack) : .kept r now reason ∈ lines := by
  cases hk with
  | kept => simp
  | lost => cases he

theorem Reachable.fellBack_kept (hr : Reachable t s) (he : s.EndsAs r .fellBack) :
    ∃ f reason, .kept r f reason ∈ s.history := by
  refine hr.induct (P := fun x => x.EndsAs r .fellBack → ∃ f reason, .kept r f reason ∈ x.history)
    (by rintro ⟨renewal, h, -⟩; simp at h) (fun a x y hx hm ih => ?_) he
  rintro ⟨renewal, h, he⟩
  have hold : x.EndsAs r .fellBack → ∃ f reason, .kept r f reason ∈ y.history := by
    intro hends
    obtain ⟨f, reason, hl⟩ := ih hends
    exact ⟨f, reason, hm.extends.history.subset hl⟩
  cases hm.renewalFrom h with
  | same hi => exact hold ⟨renewal, hi, he⟩
  | started _ _ _ hs _ hh =>
    cases hs with
    | hosted => cases he
    | alone hk => exact ⟨_, _, by rw [hh]; exact List.mem_append_right _ (hk.kept_line he)⟩
  | walked hi hw hh =>
    cases hw with
    | refused _ hk =>
      exact ⟨_, _, by rw [hh]; exact List.mem_append_right _ (.tail _ (hk.kept_line he))⟩
    | expire _ hk => exact ⟨_, _, by rw [hh]; exact List.mem_append_right _ (hk.kept_line he)⟩
    | begin | ask | answered | unfit | abandon => cases he
  | closed hi hp | counted hi hp =>
    refine hold ⟨_, hi, ?_⟩
    rw [hp]
    exact he

inductive State.Fails (s : State) : Action → RenewalId → Instant → Reason → Prop where
  | refused {r : RenewalId} {fault : CredentialFault} {f : Instant} :
      Fails s (.answerRenewal r (.error fault) f) r f .failure
  | expired {r : RenewalId} {f : Instant} : Fails s (.expire r f) r f .timeout
  | unhosted {c : CallId} {f : Instant} : Fails s (.settle c f) s.renewals.length f .noRuntime

theorem Renewal.Keeps.kept_or_lost {delay : Duration} {error : String} {p : Point}
    {lines : List Happening} (hk : renewal.Keeps r now delay reason error p lines) :
    .kept r now reason ∈ lines ∨ now.after? delay = none ∧ p.ending? = some .abandoned := by
  cases hk with
  | kept => exact .inl (by simp)
  | lost hd => exact .inr ⟨Option.map_eq_none_iff.mp hd, rfl⟩

/-- A renewal that fails keeps its pass, unless the instant of the next leaves the calendar. -/
theorem State.Moves.fails {a : Action} (hm : Moves t s a s') (hf : s.Fails a r f reason) :
    .kept r f reason ∈ s'.history ∨
      f.after? (reason.delay t) = none ∧ s'.EndsAs r .abandoned := by
  cases hf with
  | refused =>
    cases hm with
    | walk _ hw => cases hw
    | launch _ _ _ hs => cases hs
    | walkRenewal hi hw =>
      cases hw with
      | refused _ hk =>
        rcases hk.kept_or_lost with hl | ⟨hlost, he⟩
        · exact .inl (List.mem_append_right _ (.tail _ hl))
        · exact .inr ⟨hlost, _, moveRenewal_self hi, he⟩
  | expired =>
    cases hm with
    | walk _ hw => cases hw
    | launch _ _ _ hs => cases hs
    | walkRenewal hi hw =>
      cases hw with
      | expire _ hk =>
        rcases hk.kept_or_lost with hl | ⟨hlost, he⟩
        · exact .inl (List.mem_append_right _ hl)
        · exact .inr ⟨hlost, _, moveRenewal_self hi, he⟩
  | unhosted =>
    obtain ⟨_, _, _, _, lines, hk, -, hnew, -, hh⟩ := hm.settled
    rcases hk.kept_or_lost with hl | ⟨hlost, he⟩
    · exact .inl (by rw [hh]; exact List.mem_append_right _ hl)
    · exact .inr ⟨hlost, _, hnew, he⟩

end Keeps

/-! ## The schedule -/

section Schedule

variable {r : RenewalId} {renewal : Renewal}

/-- A renewal that writes its outcome is about to, and changes nothing that is held. -/
theorem Reachable.closes (hr : Reachable t s) (hstep : s.step t (.closeRenewal r) = some x)
    (h : s.renewals[r]? = some renewal) : ∃ o ending, renewal.point = .closing o ending ∧
      x.holding = s.holding ∧ x.outcome? renewal.flight = some o := by
  cases step_moves hstep with
  | walk _ hw | walkRenewal _ hw => cases hw
  | launch _ _ _ hs => cases hs
  | closeRenewal hi hp =>
    cases h.symm.trans hi
    have hq : s.drives? (.renewal r) = some (.background, renewal.flight) := by
      simp [drives?_renewal h, Renewal.drives?, hp]
    exact ⟨_, _, hp, rfl, hr.matched.outcome_written hq rfl⟩

/-- Beside a renewal on standby the pass is served that the renewal is to replace. -/
theorem Reachable.standby_serves (hr : Reachable t s) (h : s.renewals[r]? = some renewal)
    (hs : s.holding.standby = some renewal.flight) : ∃ held g, s.holding.context = some held ∧
      held.Equivalent renewal.context ∧ s.holding.current = some g ∧
        s.outcome? g = some (.ready renewal.previous) := by
  obtain ⟨held, _, _, hc, ⟨flight, hf, he⟩, -⟩ := hr.sound.standby _ hs
  obtain ⟨flight', hf', he'⟩ := hr.renewal_seeks h
  cases hf.symm.trans hf'
  obtain ⟨g, pass, hg, ho, hrenews⟩ := hr.linked _ hs
  obtain ⟨-, hprevious⟩ := hrenews.renewal r renewal h rfl
  exact ⟨held, g, hc, he.symm.trans he', hg, hprevious ▸ ho⟩

theorem Reachable.closes_kept (hr : Reachable t s) (hstep : s.step t (.closeRenewal r) = some x)
    (h : s.renewals[r]? = some renewal) (hs : s.holding.standby = some renewal.flight) {f : Instant}
    {reason : Reason} (hl : .kept r f reason ∈ s.history) :
    ∃ due, f.after? (reason.delay t) = some due ∧
      x.Awaits t renewal.context renewal.previous.expiry due := by
  obtain ⟨o, ending, hp, hholding, ho⟩ := hr.closes hstep h
  obtain ⟨pass, rfl, hdue, hexpiry⟩ := hr.kept_closing hl h hp
  obtain ⟨held, g, hc, he, hg, hold⟩ := hr.standby_serves h hs
  refine ⟨pass.renewal, hdue, (hr.step hstep).awaits ?_⟩
  rw [hholding]
  exact .deferred hc he hg ((step_moves hstep).extends.outcome hold) rfl hs ho hexpiry rfl

theorem Reachable.closes_abandoned (hr : Reachable t s)
    (hstep : s.step t (.closeRenewal r) = some x) (h : s.renewals[r]? = some renewal)
    (hs : s.holding.standby = some renewal.flight) (hends : s.EndsAs r .abandoned) :
    x.Awaits t renewal.context renewal.previous.expiry renewal.previous.renewal := by
  obtain ⟨o, ending, hp, hholding, ho⟩ := hr.closes hstep h
  obtain rfl : ending = .abandoned := EndsAs.congr ⟨renewal, h, by rw [hp]; rfl⟩ hends
  obtain rfl : o = .cancelled := by
    cases hr.closing_brings h hp
    rfl
  obtain ⟨held, g, hc, he, hg, hold⟩ := hr.standby_serves h hs
  refine (hr.step hstep).awaits ?_
  rw [hholding]
  exact .forgone hc he hg ((step_moves hstep).extends.outcome hold) rfl rfl hs ho

/-- A call that renews has put the flight of the renewal on standby. -/
theorem renewed_standby {c : CallId} {f source : FlightId} {pass : Pass}
    (hstep : s.step t (.decide c now) = some x)
    (hl : .decided c now (.renew f source pass) ∈ x.since s) : x.holding.standby = some f := by
  obtain ⟨call, d, -, -, hd, -, hh⟩ := (step_moves hstep).decided
  rw [since_append (Extends.refl s) hh, since_self] at hl
  obtain rfl : .renew f source pass = d := by simpa using hl
  generalize hx : x.holding = h' at hd
  cases hd with
  | renew => rfl

/-- When the renewals of a cycle are started: the one after a failure, and none beside another. -/
structure State.Scheduled (t : Timing) (s : State) : Prop where
  alone (c : CallId) (now : Instant) (f source : FlightId) (pass : Pass) (x y : State)
    (actions : List Action) : s.step t (.decide c now) = some x →
      .decided c now (.renew f source pass) ∈ x.since s → x.run? t actions = some y →
      y.outcome? f = none → (∀ line ∈ y.since x, line.acquires = false) →
        y.holding.standby = some f ∧ ∀ line ∈ y.since x, line.renews = false
  fails (a : Action) (x : State) (r : RenewalId) (f : Instant) (reason : Reason) :
    s.step t a = some x → s.Fails a r f reason → .kept r f reason ∈ x.history ∨
      f.after? (reason.delay t) = none ∧ x.EndsAs r .abandoned
  ends (r : RenewalId) (renewal : Renewal) (o : Outcome) (ending : Ending) :
    s.renewals[r]? = some renewal → renewal.point = .closing o ending →
      ending = .succeeded ∨ ending = .abandoned ∨ ∃ f reason, .kept r f reason ∈ s.history
  serves (r : RenewalId) (renewal : Renewal) : s.renewals[r]? = some renewal →
    s.holding.standby = some renewal.flight → ∃ held g, s.holding.context = some held ∧
      held.Equivalent renewal.context ∧ s.holding.current = some g ∧
        s.outcome? g = some (.ready renewal.previous)
  kept (r : RenewalId) (renewal : Renewal) (x : State) (f : Instant) (reason : Reason) :
    s.step t (.closeRenewal r) = some x → s.renewals[r]? = some renewal →
      s.holding.standby = some renewal.flight → .kept r f reason ∈ s.history →
        ∃ due, f.after? (reason.delay t) = some due ∧
          x.Awaits t renewal.context renewal.previous.expiry due
  abandoned (r : RenewalId) (renewal : Renewal) (x : State) :
    s.step t (.closeRenewal r) = some x → s.renewals[r]? = some renewal →
      s.holding.standby = some renewal.flight → s.EndsAs r .abandoned →
        x.Awaits t renewal.context renewal.previous.expiry renewal.previous.renewal

theorem Reachable.scheduled (hr : Reachable t s) : s.Scheduled t where
  alone c now f source pass x y actions hstep hl hrun ho hacquires :=
    (hr.step hstep).pending (renewed_standby hstep hl) hrun ho hacquires
  fails a x r f reason hstep hf := (step_moves hstep).fails hf
  ends r renewal o ending h hp := by
    cases ending with
    | succeeded => exact .inl rfl
    | abandoned => exact .inr (.inl rfl)
    | fellBack => exact .inr (.inr (hr.fellBack_kept ⟨renewal, h, by rw [hp]; rfl⟩))
  serves r renewal h hs := hr.standby_serves h hs
  kept r renewal x f reason hstep h hs hl := hr.closes_kept hstep h hs hl
  abandoned r renewal x hstep h hs hends := hr.closes_abandoned hstep h hs hends

end Schedule

def refusedRow : List Action := heldRow false ++
  [.call {} .async true false, .decide 1 ⟨400000000000⟩, .launch 1, .begin 0,
    .askRenewal 0, .answerRenewal 0 (.error (.unavailable "down")) ⟨400000000000⟩]

theorem scheduled_refusedRow : ∃ s x, State.run? {} {} refusedRow = some s ∧
    s.step {} (.closeRenewal 0) = some x ∧ x.Awaits {} {} ⟨600000000000⟩ ⟨430000000000⟩ := by
  obtain ⟨s, x, renewal, h, hstep, hi, hs, hcontext, hexpiry, hl⟩ :
      ∃ (s x : State) (renewal : Renewal), State.run? {} {} refusedRow = some s ∧
        s.step {} (.closeRenewal 0) = some x ∧ s.renewals[0]? = some renewal ∧ s.holding.standby = some renewal.flight ∧
          renewal.context = {} ∧ renewal.previous.expiry = ⟨600000000000⟩ ∧
            s.history[12]? = some (.kept 0 ⟨400000000000⟩ .failure) :=
    ⟨_, _, _, rfl, rfl, rfl, rfl, rfl, rfl, rfl⟩
  obtain ⟨due, hdue, hawaits⟩ :=
    (Reachable.scheduled ⟨_, h⟩).kept 0 renewal x _ _ hstep hi hs (List.mem_of_getElem? hl)
  obtain rfl : ⟨430000000000⟩ = due := Option.some.inj hdue
  rw [hcontext, hexpiry] at hawaits
  exact ⟨s, x, h, hstep, hawaits⟩

/-- A renewal is refused, and the instant of the next would leave the calendar. -/
def endlessRow : List Action :=
  heldRow false ++ [.call {} .async true false, .decide 1 ⟨400000000000⟩, .launch 1, .begin 0,
    .askRenewal 0]

/-- After a failure the next renewal does not always keep the distance. -/
theorem not_always_deferring : ¬ ∀ (t : Timing) (s x y z : State) (r : RenewalId) (renewal : Renewal)
    (fault : CredentialFault) (f now : Instant) (actions : List Action) (c : CallId)
    (g source : FlightId) (pass : Pass), Reachable t s → s.renewals[r]? = some renewal →
    s.holding.standby = some renewal.flight → s.step t (.answerRenewal r (.error fault) f) = some x →
    x.run? t actions = some y →
    (∀ line ∈ y.since x, line.acquires = false ∧ line.renews = false) →
    y.step t (.decide c now) = some z → .decided c now (.renew g source pass) ∈ z.since y →
    f.nanos + t.retry.nanos ≤ now.nanos := by
  intro hall
  let later : List Action := [.closeRenewal 0, .call {} .async true false]
  let found : Pass := ⟨"Bearer T1", ⟨600000000000⟩, ⟨300000000000⟩⟩
  obtain ⟨s, x, y, z, renewal, h, hi, hs, hx, hy, hquiet, hz, hl⟩ : ∃ s x y z renewal,
      State.run? boundless {} endlessRow = some s ∧ s.renewals[0]? = some renewal ∧
        s.holding.standby = some renewal.flight ∧
        s.step boundless (.answerRenewal 0 (.error (.unavailable "down")) ⟨400000000000⟩) = some x ∧
        x.run? boundless later = some y ∧ y.since x = [.wrote 1 .cancelled] ∧
        y.step boundless (.decide 2 ⟨400000000000⟩) = some z ∧
        z.since y = [.decided 2 ⟨400000000000⟩ (.renew 2 0 found)] :=
    ⟨_, _, _, _, _, rfl, rfl, rfl, rfl, rfl, rfl, rfl, rfl⟩
  have hle := hall boundless s x y z 0 renewal _ _ _ later 2 2 0 found ⟨_, h⟩ hi hs hx hy
    (by simp [hquiet, Happening.acquires, Happening.renews]) hz (by simp [hl])
  exact absurd hle (by decide)

end Cache
end BearerTokens
