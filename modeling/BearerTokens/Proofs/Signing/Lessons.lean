import BearerTokens.Signing.Send

/-! # What challenges teach

A response advertises the scope of its first Bearer challenge, or the scope of the resource there.  The
responder that learns scopes keeps for each authority the latest scope that was advertised to it, and
nothing else.
-/

namespace BearerTokens.Signing

open Http

/-! ## What a response advertises -/

/-- The first Bearer challenge of the response names the scope, or without one a resource, whose slashes
at the end give way to the suffix. -/
inductive Advertises (response : Response) : String → Prop where
  | scope {challenge : Challenge} {scope : String} (hb : bearerChallenge? response = some challenge)
      (hs : challenge.scope? = some scope) : Advertises response scope
  | resource {challenge : Challenge} {resource : String} {base slashes : List Char}
      (hb : bearerChallenge? response = some challenge) (hn : challenge.scope? = none)
      (hr : challenge.resource? = some resource) (hx : resource.toList = base ++ slashes)
      (hs : ∀ c ∈ slashes, c = '/') (he : base.getLast? ≠ some '/') :
      Advertises response (String.ofList base ++ "/.default")

def advertised? (response : Response) : Option String :=
  (bearerChallenge? response).bind challengedScope

theorem trimmed_eq {text base slashes : List Char} (hx : text = base ++ slashes)
    (hs : ∀ c ∈ slashes, c = '/') (he : base.getLast? ≠ some '/') :
    (text.reverse.dropWhile (· == '/')).reverse = base := by
  have hall : ∀ c ∈ slashes.reverse, (c == '/') = true := by
    intro c hc
    simpa using hs c (List.mem_reverse.mp hc)
  have hstop : base.reverse.dropWhile (· == '/') = base.reverse := by
    cases hb : base.reverse with
    | nil => rfl
    | cons c rest =>
      have hc : c ≠ '/' := by
        rintro rfl
        exact he (by rw [← List.head?_reverse, hb]; rfl)
      simp [hc]
  rw [hx, List.reverse_append, List.dropWhile_append_of_pos hall, hstop, List.reverse_reverse]

theorem exists_trimmed (text : List Char) : ∃ slashes, text =
    (text.reverse.dropWhile (· == '/')).reverse ++ slashes ∧ (∀ c ∈ slashes, c = '/') ∧
      (text.reverse.dropWhile (· == '/')).reverse.getLast? ≠ some '/' := by
  refine ⟨(text.reverse.takeWhile (· == '/')).reverse, ?_, fun c hc => ?_, fun he => ?_⟩
  · rw [← List.reverse_append, List.takeWhile_append_dropWhile, List.reverse_reverse]
  · have hall := List.all_eq_true.mp List.all_takeWhile c (List.mem_reverse.mp hc)
    simpa using hall
  · rw [List.getLast?_reverse] at he
    have hnot := List.head?_dropWhile_not (· == '/') text.reverse
    rw [he] at hnot
    cases hnot

theorem advertises_iff {response : Response} {scope : String} :
    Advertises response scope ↔ advertised? response = some scope := by
  constructor
  · intro h
    cases h with
    | scope hb hs => simp [advertised?, hb, challengedScope, hs]
    | resource hb hn hr hx hs he =>
      simp [advertised?, hb, challengedScope, hn, hr, trimmed_eq hx hs he]
  · intro h
    obtain ⟨challenge, hb, hc⟩ := Option.bind_eq_some_iff.mp h
    cases hs : challenge.scope? with
    | some scope' =>
      obtain rfl : scope' = scope := by simpa [challengedScope, hs] using hc
      exact .scope hb hs
    | none =>
      obtain ⟨resource, hr, rfl⟩ : ∃ resource, challenge.resource? = some resource ∧
          String.ofList (resource.toList.reverse.dropWhile (· == '/')).reverse ++ scopeSuffix =
            scope := by simpa [challengedScope, hs] using hc
      obtain ⟨slashes, hx, hslash, he⟩ := exists_trimmed resource.toList
      exact .resource hb hs hr hx hslash he

/-! ## The latest lesson -/

abbrev Lesson := Request × Response

/-- The scope was advertised to a request for the authority, and no later answer to such a request
advertises any. -/
def Latest (lessons : List Lesson) (authority scope : String) : Prop :=
  ∃ before request response after, lessons = before ++ (request, response) :: after ∧
    authority? request = some authority ∧ Advertises response scope ∧
    ∀ later ∈ after, authority? later.1 = some authority → ∀ scope, ¬ Advertises later.2 scope

def Lesson.scope? (authority : String) (lesson : Lesson) : Option String :=
  if authority? lesson.1 = some authority then advertised? lesson.2 else none

def latest? (lessons : List Lesson) (authority : String) : Option String :=
  lessons.reverse.findSome? (Lesson.scope? authority)

section Latest

variable {lessons : List Lesson} {authority scope : String}

theorem Lesson.scope?_eq_some {lesson : Lesson} : lesson.scope? authority = some scope ↔
    authority? lesson.1 = some authority ∧ Advertises lesson.2 scope := by
  simp [Lesson.scope?, advertises_iff]

theorem Lesson.scope?_eq_none {lesson : Lesson} : lesson.scope? authority = none ↔
    (authority? lesson.1 = some authority → ∀ scope, ¬ Advertises lesson.2 scope) := by
  simp [Lesson.scope?, advertises_iff, Option.eq_none_iff_forall_ne_some]

theorem latest_iff : Latest lessons authority scope ↔ latest? lessons authority = some scope := by
  rw [latest?, List.findSome?_eq_some_iff]
  constructor
  · rintro ⟨before, request, response, after, rfl, ha, hs, hnone⟩
    refine ⟨after.reverse, (request, response), before.reverse, by simp,
      Lesson.scope?_eq_some.mpr ⟨ha, hs⟩, fun later hl => ?_⟩
    exact Lesson.scope?_eq_none.mpr (hnone later (List.mem_reverse.mp hl))
  · rintro ⟨after, ⟨request, response⟩, before, hrows, hlesson, hnone⟩
    obtain ⟨ha, hs⟩ := Lesson.scope?_eq_some.mp hlesson
    refine ⟨before.reverse, request, response, after.reverse, ?_, ha, hs, fun later hl => ?_⟩
    · have hreversed := congrArg List.reverse hrows
      simpa using hreversed
    · exact Lesson.scope?_eq_none.mp (hnone later (List.mem_reverse.mp hl))

theorem latest?_concat (lessons : List Lesson) (lesson : Lesson) (authority : String) :
    latest? (lessons ++ [lesson]) authority =
      (lesson.scope? authority).or (latest? lessons authority) := by
  cases hl : lesson.scope? authority <;> simp [latest?, hl]

/-- Answers that advertise nothing do not count. -/
theorem latest?_filter {keep : Lesson → Bool}
    (hk : ∀ lesson ∈ lessons, keep lesson = false → lesson.scope? authority = none) :
    latest? (lessons.filter keep) authority = latest? lessons authority := by
  induction lessons with
  | nil => rfl
  | cons lesson lessons ih =>
    have hrest := ih fun later hl => hk later (List.mem_cons_of_mem _ hl)
    have hone (rest : List Lesson) : latest? (lesson :: rest) authority =
        (latest? rest authority).or (lesson.scope? authority) := by
      simp [latest?, List.findSome?_append]
    cases hl : keep lesson with
    | true => rw [List.filter_cons_of_pos hl, hone, hone, hrest]
    | false =>
      have hnone := hk lesson List.mem_cons_self hl
      rw [List.filter_cons_of_neg (by simp [hl]), hone, hrest, hnone, Option.or_none]

end Latest

/-! ## The memory of the responder -/

theorem Learned.lookup_filter (l : Learned) {authority other : String} (hne : other ≠ authority) :
    (l.filter (·.1 != authority)).lookup other = l.lookup other := by
  induction l with
  | nil => rfl
  | cons entry l ih =>
    obtain ⟨name, scope⟩ := entry
    by_cases hname : name = authority
    · subst hname
      simp [List.lookup_cons, ih, beq_eq_false_iff_ne.mpr hne]
    · simp [List.lookup_cons, hname, ih]

theorem Learned.scopeFor_insert (l : Learned) (authority other scope : String) :
    (l.insert authority scope).scopeFor other =
      if authority = other then some scope else l.scopeFor other := by
  by_cases h : authority = other
  · subst h
    simp [scopeFor_insert_self]
  · have hne : (other == authority) = false := beq_eq_false_iff_ne.mpr (Ne.symm h)
    simp [Learned.insert, Learned.scopeFor, List.lookup_cons, hne, h, lookup_filter l (Ne.symm h)]

/-- Being asked about an answer teaches the responder what that answer advertises, whatever it says. -/
theorem scopeResponder_remembers (l : Learned) (request : Request) (response : Response)
    (context : Context) (authority : String) :
    (scopeResponder.answer l request response context).1.scopeFor authority =
      (Lesson.scope? authority (request, response)).or (l.scopeFor authority) := by
  simp only [scopeResponder, Lesson.scope?, advertised?]
  cases hb : bearerChallenge? response with
  | none => simp
  | some challenge =>
    cases hs : challengedScope challenge with
    | none => simp [learnFrom, hs]
    | some scope =>
      cases ha : authority? request with
      | none => simp [learnFrom, hs, ha]
      | some name =>
        by_cases h : name = authority <;> simp [learnFrom, hs, ha, Learned.scopeFor_insert, h]

/-! ## What a first attempt is signed for -/

structure Learns (p : Policy) (lessons : List Lesson) (request : Request) (context : Context) :
    Prop where
  /-- One scope, the latest that was advertised for the authority, or else the scopes of the policy. -/
  scopes : (∃ authority scope, authority? request = some authority ∧
      Latest lessons authority scope ∧ context.scopes = [scope]) ∨
    (∀ authority scope, authority? request = some authority → ¬ Latest lessons authority scope) ∧
      context.scopes = p.scopes
  claims : context.claims = none
  correlation : context.correlation = request.headers.firstReadable? p.idHeader

theorem learns_before {l : Learned} {lessons : List Lesson}
    (hl : ∀ authority, l.scopeFor authority = latest? lessons authority) (p : Policy)
    (request : Request) :
    Learns p lessons request (scopeResponder.before l request (p.contextFor request)) := by
  simp only [scopeResponder]
  split
  next scope hscope =>
    obtain ⟨authority, ha, hs⟩ := Option.bind_eq_some_iff.mp hscope
    rw [hl] at hs
    exact ⟨.inl ⟨authority, scope, ha, latest_iff.mpr hs, rfl⟩, rfl, rfl⟩
  next hscope =>
    refine ⟨.inr ⟨fun authority scope ha hs => ?_, rfl⟩, rfl, rfl⟩
    rw [ha, Option.bind_some, hl, latest_iff.mp hs] at hscope
    cases hscope

/-- A response that is not put before the responder would teach it nothing. -/
theorem advertised?_eq_none {response : Response} (hr : response.mayChallenge = false) :
    advertised? response = none := by
  have hnone : response.challengeTexts = [] := by
    unfold Response.challengeTexts
    split
    next hs =>
      have hvalues : response.headers.valuesOf challengeHeader = [] := by
        simpa [Response.mayChallenge, hs, Headers.has, Headers.valuesOf] using hr
      rw [Headers.readable, hvalues]
      rfl
    next => rfl
  simp [advertised?, bearerChallenge?, Response.challenges, hnone]

end BearerTokens.Signing
