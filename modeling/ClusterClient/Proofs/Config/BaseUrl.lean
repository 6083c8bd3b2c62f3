import ClusterClient.Config
import ClusterClient.Proofs.Url.DomainName
import ClusterClient.Proofs.Url.Following

namespace ClusterClient.Config

section

variable [HostNames] {config : Config} {base : String}

/-- A base is the normal form of a web URL without the slashes at its end. -/
theorem baseUrl_eq_ok_iff : config.baseUrl = .ok base ↔
    ∃ url, Url.read config.effectiveServer = .ok (.web url) ∧ base = Text.trimEnd '/' url.text := by
  rw [baseUrl]
  constructor
  · intro accepted
    split at accepted
    · next url read =>
      cases accepted
      exact ⟨url, read, rfl⟩
    · cases accepted
    · cases accepted
  · rintro ⟨url, read, rfl⟩
    rw [read]

/-- However the names of hosts become ASCII, a request's path after a base addresses the configured
server, under its configured path exactly if the configured URL has neither a query nor a fragment. -/
theorem baseUrl_followed [HostNames.IsLawful] (accepted : config.baseUrl = .ok base) :
    base.toList.getLast? ≠ some '/' ∧
      ∃ url, Url.read config.effectiveServer = .ok (.web url) ∧
        ∀ segments, segments ≠ [] → (∀ segment ∈ segments, Url.IsUnreserved segment) →
          ∃ reached, Url.read (base ++ "/" ++ "/".intercalate segments) = .ok (.web reached) ∧
            (reached.secure = url.secure ∧ reached.userinfo = url.userinfo ∧
              reached.host = url.host ∧ reached.port = url.port) ∧
            (url.query = none ∧ url.fragment = none → reached.IsUnder url segments) ∧
            (url.query ≠ none ∨ url.fragment ≠ none →
              reached.path = url.path ∧ (reached.query ≠ none ∨ reached.fragment ≠ none)) := by
  obtain ⟨url, read, rfl⟩ := baseUrl_eq_ok_iff.mp accepted
  have normal := Url.read_isNormal read
  refine ⟨Text.getLast?_trimEnd '/' url.text, url, read, fun segments nonempty unreserved => ?_⟩
  have reads := Url.read_text (Url.followedBy_isNormal normal unreserved)
  rw [Url.text_followedBy normal nonempty unreserved] at reads
  exact ⟨url.followedBy segments, reads, Url.followedBy_server url segments,
    fun ⟨noQuery, noFragment⟩ => Url.followedBy_isUnder normal nonempty unreserved noQuery noFragment,
    Url.path_followedBy⟩

end

/-- A URL of some cluster. -/
def clusterUrl (path : List String) (query : Option String) : Url :=
  { secure := true, userinfo := "", host := .domain "cluster.example", port := none, path, query,
    fragment := none }

theorem clusterUrl_isNormal {path : List String} {query : Option String}
    (segments : path ≠ [] ∧ ∀ segment ∈ path, Url.IsSegment segment)
    (escaped : ∀ text ∈ query, Url.escapeQuery text.toList = text.toList) :
    (clusterUrl path query).IsNormal where
  userinfo := ⟨[], [], by simp, rfl⟩
  host := ⟨by decide +kernel, by decide, by decide +kernel⟩
  port := nofun
  path := segments
  query := escaped
  fragment := nofun

theorem read_proxied : Url.read "https://cluster.example/prod//"
    = .ok (.web (clusterUrl ["prod", "", ""] none)) := by
  have prod : Url.IsSegment "prod" := by constructor <;> decide
  have normal : (clusterUrl ["prod", "", ""] none).IsNormal :=
    clusterUrl_isNormal ⟨by decide, by simp [prod, Url.isSegment_empty]⟩ nofun
  have text : (clusterUrl ["prod", "", ""] none).text = "https://cluster.example/prod//" := by
    decide +kernel
  rw [← text, Url.read_text normal]

theorem baseUrl_followed_proxied :
    baseUrl { server := some "https://cluster.example/prod//" } = .ok "https://cluster.example/prod" ∧
      ∃ reached, Url.read "https://cluster.example/prod/api/v1/pods" = .ok (.web reached) ∧
        reached.host = .domain "cluster.example" ∧ reached.pathText = "/prod/api/v1/pods" ∧
        reached.query = none ∧ reached.fragment = none := by
  have accepted : baseUrl { server := some "https://cluster.example/prod//" }
      = .ok "https://cluster.example/prod" :=
    baseUrl_eq_ok_iff.mpr ⟨_, read_proxied, by decide⟩
  obtain ⟨-, url, read, follows⟩ := baseUrl_followed accepted
  have same := Url.Reading.web.inj (Except.ok.inj (read_proxied.symm.trans read))
  subst same
  obtain ⟨reached, reads, ⟨-, -, host, -⟩, under, -⟩ :=
    follows ["api", "v1", "pods"] (by decide) (by decide)
  obtain ⟨path, query, fragment⟩ := under ⟨rfl, rfl⟩
  exact ⟨accepted, reached, reads, host, path, query, fragment⟩

/-- A request's path goes into the query, and the server is asked for its root. -/
theorem baseUrl_tenanted :
    Url.read "https://cluster.example/?tenant=a"
        = .ok (.web (clusterUrl [""] (some "tenant=a"))) ∧
      baseUrl { server := some "https://cluster.example/?tenant=a" }
        = .ok "https://cluster.example/?tenant=a" ∧
      Url.read ("https://cluster.example/?tenant=a" ++ "/" ++ "/".intercalate ["api", "v1", "pods"])
        = .ok (.web (clusterUrl [""] (some "tenant=a/api/v1/pods"))) ∧
      ¬ (clusterUrl [""] (some "tenant=a/api/v1/pods")).IsUnder (clusterUrl [""] (some "tenant=a"))
        ["api", "v1", "pods"] := by
  have reads (query text : String) (clean : Url.escapeQuery query.toList = query.toList)
      (spelled : (clusterUrl [""] (some query)).text = text) :
      Url.read text = .ok (.web (clusterUrl [""] (some query))) := by
    have normal : (clusterUrl [""] (some query)).IsNormal :=
      clusterUrl_isNormal ⟨by decide, by simp [Url.isSegment_empty]⟩ fun _ same =>
        Option.mem_some_iff.mp same ▸ clean
    rw [← spelled, Url.read_text normal]
  have read := reads "tenant=a" "https://cluster.example/?tenant=a" (by decide) (by decide +kernel)
  refine ⟨read, baseUrl_eq_ok_iff.mpr ⟨_, read, by decide +kernel⟩, ?_, ?_⟩
  · exact reads "tenant=a/api/v1/pods" _ (by decide) (by decide +kernel)
  · exact fun under => Option.some_ne_none _ under.2.1

end ClusterClient.Config
