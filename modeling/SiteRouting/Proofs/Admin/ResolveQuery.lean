import Mathlib
import SiteRouting.Proofs.Admin.History
import SiteRouting.Proofs.Text.FormEncoding

namespace SiteRouting.Admin

open Http

def ResolveQuery.pairs (query : ResolveQuery) : List (String × String) :=
  (query.host.map ("host", ·)).toList ++ (query.contextPath.map ("context_path", ·)).toList ++
    (query.path.map ("path", ·)).toList

def ResolveQuery.target (query : ResolveQuery) : String :=
  String.ofList ("/admin/resolve".toList ++ '?' :: Text.formQuery query.pairs)

theorem ResolveQuery.ofPairs?_pairs (query : ResolveQuery) :
    ResolveQuery.ofPairs? {} query.pairs = some query := by
  obtain ⟨host, contextPath, path⟩ := query
  cases host <;> cases contextPath <;> cases path <;> rfl

theorem originForm_eq_self {target : String} {rest : List Char} (origin : target.toList = '/' :: rest)
    (whole : '#' ∉ rest) : originForm target = '/' :: rest := by
  have kept : ('/' :: rest).takeWhile (· != '#') = '/' :: rest := by
    rw [List.takeWhile_eq_self_iff]
    intro c member
    simp only [bne_iff_ne]
    rintro rfl
    simp only [List.mem_cons] at member
    exact member.elim (by decide) whole
  unfold originForm
  rw [origin, kept]
  rfl

/-- An admitted request to resolve what a query holds: a read of that route,
whose parameters are read as the query. -/
structure Asks (settings : AdminSettings) (request : Request) (query : ResolveQuery) : Prop where
  admitted : isAdmitted settings request = true
  method : request.method = "GET"
  path : request.path = "/admin/resolve"
  query : ResolveQuery.ofPairs? {} (Text.formPairs request.query) = some query

theorem serve_of_asks {settings : AdminSettings} {manager : Manager} {source : Source} {now : Nat}
    {request : Request} {query : ResolveQuery} (asks : Asks settings request query) :
    (serve settings manager source now request).answer =
      ⟨(resolve manager source request).answer.status, (resolve manager source request).answer.body,
        request.identifier?⟩ := by
  have route : Route.ofPath? "/admin/resolve" = some .resolve := by decide
  have method : (Method.ofName? "GET").filter Route.resolve.allows = some .get := by decide
  simp only [serve, asks.admitted, if_true, routed, asks.path, asks.method, route, method,
    Route.command?, run]
  rfl

/-- A request can be turned into one for any other query, so whoever is
admitted can ask for every host, context path and path. -/
theorem Asks.retarget {settings : AdminSettings} {request : Request} {query : ResolveQuery}
    (asks : Asks settings request query) (other : ResolveQuery) :
    Asks settings { request with target := other.target } other := by
  have free : '#' ∉ "admin/resolve".toList ++ '?' :: Text.formQuery other.pairs := by
    have outside := Text.not_mem_formQuery other.pairs
    simp [outside]
  have target : originForm other.target =
      "/admin/resolve".toList ++ '?' :: Text.formQuery other.pairs :=
    originForm_eq_self (String.toList_ofList) free
  refine ⟨asks.admitted, asks.method, ?_, ?_⟩
  · rw [Request.path, target]
    rfl
  · rw [Request.query, target]
    change ResolveQuery.ofPairs? {} (Text.formPairs (String.ofList (Text.formQuery other.pairs))) = _
    rw [Text.formPairs_formQuery, ResolveQuery.ofPairs?_pairs]

end SiteRouting.Admin
