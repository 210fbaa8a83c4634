import AuthKit.Library.Text
import AuthKit.Oidc.Jwks

/-!
# Issuer discovery

`discover` asks for the discovery document of an issuer and keeps it only if the document names the
issuer as the caller wrote it. URLs come from a crate; all that matters here is that the path of one
can be read and replaced.
-/
namespace AuthKit.Oidc

/-- The endpoints and the capabilities are for the caller; `discover` looks at the issuer. -/
structure DiscoveryDoc where
  issuer : String
  authorizationEndpoint : Option String
  tokenEndpoint : Option String
  jwksUri : Option String
  userinfoEndpoint : Option String
  endSessionEndpoint : Option String
  introspectionEndpoint : Option String
  revocationEndpoint : Option String
  responseTypesSupported : List String
  subjectTypesSupported : List String
  idTokenSigningAlgValuesSupported : List String
  codeChallengeMethodsSupported : List String
  scopesSupported : List String
  claimsSupported : List String
  deriving DecidableEq

/-- `url::Url`, with parse errors as their texts. -/
structure UrlCrate (Url : Type) where
  parse : String → Except String Url
  path : Url → String
  setPath : Url → String → Url

abbrev DiscoveryHttp (Url : Type) := Get Url DiscoveryDoc

def DiscoveryHttp.discoveryDoc {Url : Type} (http : DiscoveryHttp Url) (url : Url)
    (served : Instant) : Except DiscoveryError DiscoveryDoc := Get.json http url served

/-- `str::trim_end_matches('/')`. -/
def trimEndSlashes (s : String) : String := .ofList (s.toList.rdropWhile fun c => decide (c = '/'))

section Discover

variable {Url : Type} (crate : UrlCrate Url) (http : DiscoveryHttp Url)

def discoveryUrl (issuerUrl : Url) : Url :=
  crate.setPath issuerUrl
    (trimEndSlashes (crate.path issuerUrl) ++ "/.well-known/openid-configuration")

def discover (served : Instant) (issuer : String) : Except DiscoveryError DiscoveryDoc :=
  match crate.parse issuer with
  | .error error => .error (.invalidIssuerUrl (error ++ ": " ++ issuer))
  | .ok issuerUrl =>
      match http.discoveryDoc (discoveryUrl crate issuerUrl) served with
      | .error error => .error error
      | .ok doc =>
          if doc.issuer ≠ issuer then .error (.issuerMismatch doc.issuer issuer) else .ok doc

/-- A document is kept iff the server gave it out under the discovery URL of the issuer, and it
names the issuer letter by letter. -/
theorem discover_ok_iff (served : Instant) (issuer : String) (doc : DiscoveryDoc) :
    discover crate http served issuer = .ok doc ↔
      ∃ url, crate.parse issuer = .ok url ∧
        http.discoveryDoc (discoveryUrl crate url) served = .ok doc ∧ doc.issuer = issuer := by
  unfold discover
  cases parsed : crate.parse issuer with
  | error error => simp
  | ok url =>
    cases answer : http.discoveryDoc (discoveryUrl crate url) served with
    | error error => simp [answer]
    | ok found =>
      simp only [ne_eq, ite_not, Except.ok.injEq, exists_eq_left', answer]
      by_cases same : found.issuer = issuer
      · rw [if_pos same, Except.ok.injEq]
        exact ⟨fun eq => ⟨eq, eq ▸ same⟩, And.left⟩
      · rw [if_neg same]
        refine iff_of_false nofun ?_
        rintro ⟨rfl, matches'⟩
        exact same matches'

/-- The URLs differ in nothing but slashes at the end of their paths. -/
def EqualUpToSlashes (url url' : Url) : Prop :=
  (∀ path, crate.setPath url path = crate.setPath url' path) ∧
    trimEndSlashes (crate.path url) = trimEndSlashes (crate.path url')

theorem discoveryUrl_eq {url url' : Url} (slashes : EqualUpToSlashes crate url url') :
    discoveryUrl crate url = discoveryUrl crate url' := by
  unfold discoveryUrl
  rw [slashes.2]
  exact slashes.1 _

/-- All spellings of an issuer with more or fewer slashes behind it are asked for under one URL, and
as long as the document there stays the same, at most one of them is accepted: for every other
spelling the error names the one in the document and the one that was asked for. -/
theorem discovery_accepts_one_spelling (served served' : Instant) (issuer issuer' : String)
    (url url' : Url) (doc : DiscoveryDoc) (parsed : crate.parse issuer = .ok url)
    (parsed' : crate.parse issuer' = .ok url') (slashes : EqualUpToSlashes crate url url')
    (constant : http (discoveryUrl crate url) served' = http (discoveryUrl crate url) served)
    (accepted : discover crate http served issuer = .ok doc) :
    discover crate http served' issuer' =
      if issuer' = issuer then .ok doc else .error (.issuerMismatch issuer issuer') := by
  obtain ⟨_, again, answer, rfl⟩ := (discover_ok_iff crate http served issuer doc).mp accepted
  cases parsed.symm.trans again
  have answer' : http.discoveryDoc (discoveryUrl crate url') served' = .ok doc := by
    rw [← discoveryUrl_eq crate slashes, ← answer]
    unfold DiscoveryHttp.discoveryDoc Get.json
    rw [constant]
  simp only [discover, parsed', answer', ne_eq, ite_not, eq_comm]

end Discover

/-! ### An issuer with a path -/

/-- `https` URLs without a query, as their host and path. -/
def httpsUrls : UrlCrate (String × String) where
  parse text :=
    match text.toList.dropPrefix? "https://".toList with
    | none => .error "relative URL without a base"
    | some rest =>
        match Text.splitOnce '/' rest with
        | none => .ok (.ofList rest, "/")
        | some (host, path) => .ok (.ofList host, .ofList ('/' :: path))
  path url := url.2
  setPath url path := (url.1, path)

def tenantDoc : DiscoveryDoc where
  issuer := "https://a.example/tenant"
  authorizationEndpoint := some "https://a.example/tenant/authorize"
  tokenEndpoint := some "https://a.example/tenant/token"
  jwksUri := some "https://a.example/jwks"
  userinfoEndpoint := none
  endSessionEndpoint := none
  introspectionEndpoint := none
  revocationEndpoint := none
  responseTypesSupported := ["code"]
  subjectTypesSupported := ["public"]
  idTokenSigningAlgValuesSupported := ["RS256"]
  codeChallengeMethodsSupported := []
  scopesSupported := []
  claimsSupported := []

def tenantHttp : DiscoveryHttp (String × String) := fun url _ =>
  if url = ("a.example", "/tenant/.well-known/openid-configuration") then .ok ⟨200, .ok tenantDoc⟩
  else .ok ⟨404, .error .decode⟩

/-- The slash behind the issuer is taken off for the request, and then the document does not match. -/
theorem slash_behind_issuer_mismatches :
    discover httpsUrls tenantHttp ⟨0⟩ "https://a.example/tenant" = .ok tenantDoc ∧
      discover httpsUrls tenantHttp ⟨1⟩ "https://a.example/tenant/" =
        .error (.issuerMismatch "https://a.example/tenant" "https://a.example/tenant/") := by
  have accepted : discover httpsUrls tenantHttp ⟨0⟩ "https://a.example/tenant" = .ok tenantDoc := by
    decide
  refine ⟨accepted, ?_⟩
  exact discovery_accepts_one_spelling httpsUrls tenantHttp ⟨0⟩ ⟨1⟩ _ "https://a.example/tenant/"
    ("a.example", "/tenant") ("a.example", "/tenant/") tenantDoc (by decide) (by decide)
    ⟨fun _ => rfl, by decide⟩ rfl accepted

end AuthKit.Oidc
