import BearerTokens.Endpoint.Reply
import BearerTokens.Proofs.Url.Rereading

/-! # What a token request says

A client whose endpoint is accepted hands over one request for every context.  Its form is read back as the
pairs that the context calls for, texts unchanged, and its header as the identifier and the secret where these
are not shown in the form.
-/

namespace BearerTokens.Endpoint

open Text (utf8)
open Text.Base64 (decodeLenient encodePadded standard)

def formValues (pairs : List (String × String)) (name : String) : List String :=
  (pairs.filter (·.1 == name)).map (·.2)

theorem formValues_append (pairs more : List (String × String)) (name : String) :
    formValues (pairs ++ more) name = formValues pairs name ++ formValues more name := by
  simp [formValues]

theorem formValues_named (name other : String) (values : List String) :
    formValues (values.map (name, ·)) other = if name = other then values else [] := by
  induction values with
  | nil => simp [formValues]
  | cons value values ih =>
    rw [List.map_cons, ← List.singleton_append, formValues_append, ih]
    by_cases h : name = other
    · simp [formValues, h]
    · simp [formValues, h]

/-- A form for a client and a context: it has the one pair of each name that they call for, and no pair of
another name. -/
structure Fits (c : Client) (context : Context) (pairs : List (String × String)) : Prop where
  grant : formValues pairs "grant_type" = ["client_credentials"]
  scope : formValues pairs "scope" =
    if context.scopes = [] then [] else [" ".intercalate context.scopes]
  claims : formValues pairs "claims" = context.claims.toList
  client : formValues pairs "client_id" = if c.method = .post then [c.id] else []
  secret : formValues pairs "client_secret" = if c.method = .post then [c.secret.value] else []
  names : ∀ p ∈ pairs, p.1 ∈ ["grant_type", "scope", "claims", "client_id", "client_secret"]

/-- A header value that shows a client: the code of a text whose first colon parts the form spellings of
identifier and secret. -/
structure ShowsClient (c : Client) (value : String) : Prop where
  intro ::
  payload : ∃ code payload : String, value = "Basic " ++ code ∧ 4 ∣ code.toList.length ∧
    decodeLenient standard code.toList = some (utf8 payload) ∧
    payload.toList = Text.Form.encode c.id ++ ':' :: Text.Form.encode c.secret.value ∧
    ':' ∉ Text.Form.encode c.id

namespace Client

/-- The pairs of each name stand together. -/
theorem pairs_eq (c : Client) (context : Context) : c.pairs context =
    ["client_credentials"].map ("grant_type", ·) ++
      (if context.scopes = [] then [] else [" ".intercalate context.scopes]).map ("scope", ·) ++
      (if c.method = .post then [c.id] else []).map ("client_id", ·) ++
      (if c.method = .post then [c.secret.value] else []).map ("client_secret", ·) ++
      context.claims.toList.map ("claims", ·) := by
  have hscope : (if context.scopes = [] then [] else [" ".intercalate context.scopes]).map
      ("scope", ·) = if context.scopes.isEmpty then []
        else [("scope", " ".intercalate context.scopes)] := by
    cases context.scopes with
    | nil => rfl
    | cons s scopes => rfl
  have hclaims : context.claims.toList.map ("claims", ·) =
      (context.claims.map (claimsParameter, ·)).toList := by
    cases context.claims with
    | none => rfl
    | some claims => rfl
  rw [pairs, hscope, hclaims]
  cases c.method with
  | basic => simp
  | post => simp

theorem fits_pairs (c : Client) (context : Context) : Fits c context (c.pairs context) := by
  rw [pairs_eq]
  constructor
  case names => simp [or_imp, forall_and]
  all_goals
    simp only [formValues_append, formValues_named]
    simp

theorem showsClient_basicValue (c : Client) : ShowsClient c c.basicValue := by
  let payload := Text.Form.encode c.id ++ ':' :: Text.Form.encode c.secret.value
  refine ⟨String.ofList (encodePadded standard (utf8 (String.ofList payload))), String.ofList payload,
    rfl, ?_, ?_, String.toList_ofList, Text.Form.not_mem_encode (by decide) c.id⟩
  · rw [String.toList_ofList]
    exact Text.Base64.four_dvd_length_encodePadded _
  · rw [String.toList_ofList]
    exact Text.Base64.decodeLenient_encodePadded Text.Base64.lawful_standard _

theorem authorization_basic (c : Client) (hm : c.method = .basic) :
    c.headers.valuesOf Http.authorizationHeader = [c.basicValue] := by
  simp [headers, hm, Http.Headers.valuesOf, Http.authorizationHeader]

theorem authorization_post (c : Client) (hm : c.method = .post) :
    c.headers.valuesOf Http.authorizationHeader = [] := by
  simp [headers, hm, Http.Headers.valuesOf, Http.authorizationHeader]

theorem request_eq {c : Client} {endpoint : Url} {uri : Http.Uri}
    (hurl : Url.read c.endpoint.text = .ok endpoint) (huri : Http.Uri.read endpoint.text = .ok uri)
    (context : Context) : c.request context =
      .ok { method := "POST", uri, headers := c.headers, body := Text.Form.body (c.pairs context) } := by
  simp only [request, hurl, huri, Except.mapError, bind, Except.bind]

/-- A client that was given an address goes to this very address, unless its host is a name that could settle
further. -/
theorem request_settled {c : Client} {text : String} {uri : Http.Uri}
    (hread : Url.read text = .ok c.endpoint)
    (hscheme : c.endpoint.scheme = "http" ∨ c.endpoint.scheme = "https")
    (hname : ∀ authority ∈ c.endpoint.authority, (Url.hostOf authority).head? ≠ some '[' →
      Url.PlainName (Url.hostOf authority))
    (huri : Http.Uri.read c.endpoint.text = .ok uri) (context : Context) :
    ∃ request, c.request context = .ok request ∧ request.uri = c.endpoint.target := by
  have hagain := Url.read_text hread hscheme hname
  exact ⟨_, request_eq hagain huri context, (Url.delimited_read hread hscheme).target_eq hscheme huri⟩

end Client

/-- A client whose identifier and secret hold signs that part forms and codes. -/
def loopback : Client where
  endpoint := ⟨"https", some "[::1]:8443", "/t", some "x=1", some "f"⟩
  id := "a:b&c=d"
  secret := ⟨"p+ q%\u00e9"⟩

def demand : Context where
  scopes := ["x y", "z"]
  claims := some "\x7b\"a\":1\x7d"
  correlation := some "r"

end BearerTokens.Endpoint
