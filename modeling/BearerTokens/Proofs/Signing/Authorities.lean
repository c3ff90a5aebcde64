import BearerTokens.Proofs.Http.Target
import BearerTokens.Proofs.Signing.Lessons

/-! # Which requests share a learned scope

The responder that learns scopes keeps one for each text of host and port.  Two requests share it where their
hosts are spelled alike and their ports are the same number; a port that is left out, and also one that does not
fit 16 bits, counts as 443.  So two spellings of one host share nothing, and a port that does not fit shares with
the default one.
-/

namespace BearerTokens.Signing

open Http Http.Uri

/-! ## Authorities -/

/-- The port of a target, if digits or nothing at all stand for it. -/
inductive PortOf (l : Layout) : Nat → Prop where
  | omitted (h : l.port.getD [] = []) : PortOf l 443
  | written {digits : List Char} (h : l.port = some digits) (hne : digits ≠ [])
      (hd : ∀ c ∈ digits, c.isDigit = true) : PortOf l (Nat.ofDigitChars 10 digits 0)

/-- The same host but for the case of its letters, and the same port. -/
def SameAuthority (l l' : Layout) : Prop :=
  Text.sameLetters (String.ofList l.host) (String.ofList l'.host) = true ∧
    ∃ port, PortOf l port ∧ PortOf l' port

def keptPort (l : Layout) : Nat := (l.port.bind portNumber?).getD httpsPort

variable {l l' : Layout} {text text' : String} {request request' : Request} {response : Response}
  {scope : String} {port port' : Nat}

theorem keptPort_eq (h : PortOf l port) : keptPort l = if port < 65536 then port else 443 := by
  cases h with
  | omitted h =>
    cases hport : l.port with
    | none => simp [keptPort, hport]
    | some digits =>
      obtain rfl : digits = [] := by simpa [hport] using h
      simp [keptPort, hport, portNumber?]
  | written h hne hd =>
    rw [keptPort, h, Option.bind_some, portNumber?_digits hne hd]
    split <;> rfl

theorem authority?_eq (hl : Shows text l) (hu : Uri.read text = .ok request.uri) :
    authority? request = some (String.ofList l.host ++ ":" ++ toString (keptPort l)) := by
  have hauthority := hl.authority_eq hu
  rw [authority?, hl.lawful.host?_eq hauthority, hl.lawful.port?_eq hauthority]
  rfl

theorem colon_not_mem (n : Nat) : ':' ∉ Nat.toDigits 10 n := by
  intro hmem
  exact absurd (Nat.isDigit_of_mem_toDigits (by decide) (by decide) hmem) (by decide)

/-- A key is the port behind its last colon and the host before that. -/
theorem key_inj {host host' : List Char} {n n' : Nat} :
    String.ofList host ++ ":" ++ toString n = String.ofList host' ++ ":" ++ toString n' ↔
      host = host' ∧ n = n' := by
  constructor
  · intro h
    have hkeys : (host ++ [':']) ++ Nat.toDigits 10 n = (host' ++ [':']) ++ Nat.toDigits 10 n' := by
      simpa using congrArg String.toList h
    have hdigits : Nat.toDigits 10 n = Nat.toDigits 10 n' := by
      have hruns := congrArg (lastRun ':') hkeys
      rwa [lastRun_eq (.inr (by simp)) (colon_not_mem n),
        lastRun_eq (.inr (by simp)) (colon_not_mem n')] at hruns
    rw [hdigits] at hkeys
    constructor
    · simpa using List.append_cancel_right hkeys
    · simpa using congrArg (Nat.ofDigitChars 10 · 0) hdigits
  · rintro ⟨rfl, rfl⟩
    rfl

/-! ## What is shared -/

/-- The context of a request once a responder that knew nothing has been shown the response to another one. -/
def contextAfter (request : Request) (response : Response) (rejected : Context) (request' : Request)
    (context : Context) : Context :=
  scopeResponder.before (scopeResponder.answer [] request response rejected).1 request' context

theorem before_learned (ha : Advertises response scope) (rejected context : Context)
    {authority authority' : String} (hr : authority? request = some authority)
    (hr' : authority? request' = some authority') :
    contextAfter request response rejected request' context =
      if authority = authority' then context.withScopes [scope] else context := by
  have hkept := scopeResponder_remembers [] request response rejected authority'
  have hscope : advertised? response = some scope := advertises_iff.mp ha
  have hnone : Learned.scopeFor [] authority' = none := rfl
  rw [Lesson.scope?, hr, hscope, hnone, Option.or_none] at hkept
  unfold contextAfter scopeResponder at *
  simp only [hr', Option.bind_some, hkept, Option.some.injEq]
  by_cases heq : authority = authority' <;> simp [heq]

theorem PortOf.unique (h : PortOf l port) (h' : PortOf l port') : port' = port := by
  cases h with
  | omitted h =>
    cases h' with
    | omitted => rfl
    | written hport hne => exact absurd (by simpa [hport] using h) hne
  | written h hne =>
    cases h' with
    | omitted h' => exact absurd (by simpa [h] using h') hne
    | written h' => rw [Option.some.inj (h.symm.trans h')]

/-- Where the hosts are spelled alike and the ports fit 16 bits, what is kept together is what has the same
authority. -/
theorem sameAuthority_iff
    (hhost : Text.sameLetters (String.ofList l.host) (String.ofList l'.host) = true → l.host = l'.host)
    (hp : PortOf l port) (hp' : PortOf l' port') (hfits : port < 65536) (hfits' : port' < 65536) :
    SameAuthority l l' ↔ l.host = l'.host ∧ keptPort l = keptPort l' := by
  rw [keptPort_eq hp, keptPort_eq hp', if_pos hfits, if_pos hfits']
  constructor
  · rintro ⟨hsame, n, hn, hn'⟩
    exact ⟨hhost hsame, (hn.unique hp).trans (hn'.unique hp').symm⟩
  · rintro ⟨heq, rfl⟩
    exact ⟨by simp [heq, Text.sameLetters], port, hp, hp'⟩

/-- A scope that one request has taught is asked for by another just where the hosts are spelled alike and the
ports that are kept agree.  User information, path and query play no part.  That is to have the same authority,
unless a host is spelled in two ways or a port does not fit 16 bits. -/
theorem scope_shared (hu : Uri.read text = .ok request.uri) (hu' : Uri.read text' = .ok request'.uri)
    (hs : request.uri.scheme = some "https") (hs' : request'.uri.scheme = some "https")
    (ha : Advertises response scope) (rejected context : Context) :
    (∃ l, Shows text l) ∧ (∃ l', Shows text' l') ∧ ∀ l l', Shows text l → Shows text' l' →
      contextAfter request response rejected request' context =
        (if l.host = l'.host ∧ keptPort l = keptPort l' then context.withScopes [scope] else context) ∧
      ((Text.sameLetters (String.ofList l.host) (String.ofList l'.host) = true → l.host = l'.host) →
        ∀ port port', PortOf l port → PortOf l' port' → port < 65536 → port' < 65536 →
        (SameAuthority l l' → contextAfter request response rejected request' context =
          context.withScopes [scope]) ∧
        (¬ SameAuthority l l' →
          contextAfter request response rejected request' context = context)) := by
  refine ⟨exists_layout hu hs, exists_layout hu' hs', ?_⟩
  intro l l' hl hl'
  have hbefore : contextAfter request response rejected request' context =
      if l.host = l'.host ∧ keptPort l = keptPort l' then context.withScopes [scope] else context := by
    rw [before_learned ha rejected context (authority?_eq hl hu) (authority?_eq hl' hu')]
    simp only [key_inj]
  refine ⟨hbefore, ?_⟩
  intro hhost port port' hp hp' hfits hfits'
  have hiff := sameAuthority_iff hhost hp hp' hfits hfits'
  rw [hbefore]
  constructor
  · intro hsame
    exact if_pos (hiff.mp hsame)
  · intro hother
    exact if_neg (mt hiff.mpr hother)

/-! ## Spellings of one authority -/

def scopeAnswer : Response where
  status := 401
  headers := [("www-authenticate", "Bearer scope=\"S\"")]

theorem advertises_scopeAnswer : Advertises scopeAnswer "S" :=
  advertises_iff.mpr (by decide +kernel)

def plainLayout (user host : String) (port : Option String) (tail : String) : Layout :=
  ⟨"https".toList, user.toList, host.toList, [], port.map String.toList, tail.toList⟩

theorem shows_of_plainHost {text : String} {l : Layout}
    (hscheme : (String.ofList l.scheme).toLower = "https")
    (hauthority : l.authority.all (!Uri.endsAuthority ·) = true)
    (htail : l.tail.head?.all Uri.endsAuthority = true)
    (huser : l.user = [] ∨ l.user.getLast? = some '@') (hsign : '@' ∉ l.host ++ (l.filler ++ l.portText))
    (hhost : l.host.head? ≠ some '[' ∧ ':' ∉ l.host ∧ (l.filler ++ l.portText).head?.all (· == ':') = true)
    (hport : ':' ∉ l.port.getD l.filler) (htext : text.toList = l.text) : Shows text l := by
  obtain ⟨hopen, hcolon, hbehind⟩ := hhost
  refine ⟨⟨hscheme, ?_, ?_, huser, hsign, .inr ⟨hopen, hcolon, ?_⟩, hport⟩, htext⟩
  · intro c hc
    have hnot := List.all_eq_true.mp hauthority c hc
    simpa [Uri.endsAuthority, and_assoc] using hnot
  · intro c hc
    have hends := Option.all_eq_true _ _ |>.mp htail c hc
    simpa [Uri.endsAuthority, or_assoc] using hends
  · intro c hc
    have hends := Option.all_eq_true _ _ |>.mp hbehind c hc
    simpa using hends

theorem scope_shared_spelled : ∃ (request request' : Request) (l l' : Layout),
    Uri.read "https://u:1@Vault.example:0443/a?b" = .ok request.uri ∧
    Uri.read "https://Vault.example:/c" = .ok request'.uri ∧
    request.uri.scheme = some "https" ∧ request'.uri.scheme = some "https" ∧
    Shows "https://u:1@Vault.example:0443/a?b" l ∧ Shows "https://Vault.example:/c" l' ∧
    PortOf l 443 ∧ PortOf l' 443 ∧ SameAuthority l l' ∧
    contextAfter request scopeAnswer { scopes := ["A"] } request' { scopes := ["B"] } =
      { scopes := ["S"] } := by
  let request : Request :=
    { uri := ⟨some "https", some "u:1@Vault.example:0443", "/a", some "b"⟩ }
  let request' : Request := { uri := ⟨some "https", some "Vault.example:", "/c", none⟩ }
  let l := plainLayout "u:1@" "Vault.example" (some "0443") "/a?b"
  let l' := plainLayout "" "Vault.example" (some "") "/c"
  have hu : Uri.read "https://u:1@Vault.example:0443/a?b" = .ok request.uri := by decide +kernel
  have hu' : Uri.read "https://Vault.example:/c" = .ok request'.uri := by decide +kernel
  have hl : Shows "https://u:1@Vault.example:0443/a?b" l := by
    apply shows_of_plainHost <;> decide +kernel
  have hl' : Shows "https://Vault.example:/c" l' := by
    apply shows_of_plainHost <;> decide +kernel
  have hwritten : l.port = some "0443".toList := rfl
  have hp : PortOf l 443 := .written hwritten (by decide) (List.all_eq_true.mp (by decide))
  have hp' : PortOf l' 443 := .omitted rfl
  have hsame : SameAuthority l l' := ⟨by decide +kernel, 443, hp, hp'⟩
  refine ⟨request, request', l, l', hu, hu', rfl, rfl, hl, hl', hp, hp', hsame, ?_⟩
  exact (((scope_shared hu hu' rfl rfl advertises_scopeAnswer _ _).2.2 l l' hl hl').2 (fun _ => rfl)
    443 443 hp hp' (by decide) (by decide)).1 hsame

/-- One host with a capital letter and without: the same authority, and nothing is shared.  A port beyond 16 bits
and none: two authorities, and the scope is shared. -/
theorem not_always_shared :
    (∃ (request request' : Request) (l l' : Layout),
      Uri.read "https://Vault.example/" = .ok request.uri ∧
      Uri.read "https://vault.example/" = .ok request'.uri ∧
      Shows "https://Vault.example/" l ∧ Shows "https://vault.example/" l' ∧ SameAuthority l l' ∧
      contextAfter request scopeAnswer { scopes := ["A"] } request' { scopes := ["B"] } =
        { scopes := ["B"] }) ∧
    ∃ (request request' : Request) (l l' : Layout),
      Uri.read "https://vault.example:99999/" = .ok request.uri ∧
      Uri.read "https://vault.example/" = .ok request'.uri ∧
      Shows "https://vault.example:99999/" l ∧ Shows "https://vault.example/" l' ∧
      PortOf l 99999 ∧ PortOf l' 443 ∧ ¬ SameAuthority l l' ∧
      contextAfter request scopeAnswer { scopes := ["A"] } request' { scopes := ["B"] } =
        { scopes := ["S"] } := by
  constructor
  · refine ⟨{ uri := ⟨some "https", some "Vault.example", "/", none⟩ },
      { uri := ⟨some "https", some "vault.example", "/", none⟩ },
      plainLayout "" "Vault.example" none "/", plainLayout "" "vault.example" none "/",
      by decide +kernel, by decide +kernel, ?_, ?_, ?_, by decide +kernel⟩
    · apply shows_of_plainHost <;> decide +kernel
    · apply shows_of_plainHost <;> decide +kernel
    · exact ⟨by decide +kernel, 443, .omitted rfl, .omitted rfl⟩
  · have hwritten : (plainLayout "" "vault.example" (some "99999") "/").port =
        some "99999".toList := rfl
    have hp : PortOf (plainLayout "" "vault.example" (some "99999") "/") 99999 :=
      .written hwritten (by decide) (List.all_eq_true.mp (by decide))
    have hp' : PortOf (plainLayout "" "vault.example" none "/") 443 := .omitted rfl
    refine ⟨{ uri := ⟨some "https", some "vault.example:99999", "/", none⟩ },
      { uri := ⟨some "https", some "vault.example", "/", none⟩ },
      plainLayout "" "vault.example" (some "99999") "/", plainLayout "" "vault.example" none "/",
      by decide +kernel, by decide +kernel, ?_, ?_, hp, hp', ?_, by decide +kernel⟩
    · apply shows_of_plainHost <;> decide +kernel
    · apply shows_of_plainHost <;> decide +kernel
    · rintro ⟨-, port, hport, hport'⟩
      exact absurd ((hport.unique hp).trans (hport'.unique hp').symm) (by decide)

end BearerTokens.Signing
