import Vertx.Http.RoundTrip

/-!
# Configured paths

Both servers read their paths from the environment, print their URL from them and compare the path
of a request with them; the client of the product API puts `/api` before every path, and spares it
when its base URL ends in one.  The configured paths are reachable when they are written as the URL
parser writes paths, and the base path ends in `/api`.
-/

namespace Vertx

/-! ## Configurations -/

/-- `value?.trim() || fallback`. -/
def trimmedEnv (value : Option (List Char)) (fallback : List Char) : List Char :=
  let trimmed := (value.map fun v => (jsTrim (String.ofList v)).toList).getD []
  if trimmed = [] then fallback else trimmed

def normalizePath (value : Option (List Char)) (fallback : List Char) : List Char :=
  let raw := trimmedEnv value fallback
  let prefixed := if ['/'] <+: raw then raw else '/' :: raw
  if 1 < prefixed.length ∧ ['/'] <:+ prefixed then prefixed.dropLast else prefixed

/-- The environment variables that the host and the paths of a server are read from. -/
structure PathEnv where
  host : Option (List Char)
  path : Option (List Char)
  healthPath : Option (List Char)

def loadProductApiServerConfig (env : PathEnv) : ProductApiServerConfig where
  host := trimmedEnv env.host "127.0.0.1".toList
  basePath := normalizePath env.path "/api".toList
  healthPath := normalizePath env.healthPath "/healthz".toList

/-- The fields of the gateway's configuration that an upgrade meets. -/
structure RealtimeGatewayServerConfig where
  host : List Char
  path : List Char
  deriving DecidableEq, Repr

def loadRealtimeGatewayServerConfig (env : PathEnv) : RealtimeGatewayServerConfig where
  host := trimmedEnv env.host "127.0.0.1".toList
  path := normalizePath env.path "/realtime".toList

def wsBaseUrl (host : List Char) (port : ℕ) : List Char :=
  let normalizedHost := if host = "0.0.0.0".toList then "127.0.0.1".toList else host
  "ws://".toList ++ normalizedHost ++ ':' :: port.repr.toList

/-- The `url` of a gateway that listens on `port`. -/
def RealtimeGatewayServerConfig.url (config : RealtimeGatewayServerConfig) (port : ℕ) : List Char :=
  wsBaseUrl config.host port ++ config.path

/-- The path check of `upgradeHandler`; none when the target is not a URL. -/
def upgradeAccepted (parser : UrlParser) (config : RealtimeGatewayServerConfig)
    (target : List Char) : Option Bool :=
  (parser.pathname target).map (· = config.path)

/-! ## The addresses of the routes -/

namespace Route

def method : Route → HttpMethod
  | exact m _ _ => m
  | entity m _ _ _ => m

/-- The path of the route below the base path, with this segment for the id. -/
def address (segment : List Char) : Route → List Char
  | exact _ p _ => p
  | entity _ before after _ => before ++ segment ++ after

/-- The call of the route's handler. -/
def handler (segment : List Char) : Route → ApiCall
  | exact _ _ call => call
  | entity _ _ _ op => .entity op (JsString.ofChars segment)

end Route

/-- A segment of a path as the URL parser writes it. -/
def isSegment (s : List Char) : Bool := s ≠ [] && '/' ∉ s && isPathTail s

/-- The requests of the client's methods without an id. -/
def clientRequests : List (HttpMethod × List Char) := [
  (.get, "/api/workbench/summary".toList),
  (.get, "/api/workflows".toList),
  (.post, "/api/workflows".toList),
  (.get, "/api/runs".toList),
  (.get, "/api/sessions".toList),
  (.get, "/api/channel-connections".toList),
  (.post, "/api/channel-connections/feishu/connect".toList),
  (.get, "/api/settings".toList),
  (.put, "/api/settings".toList),
  (.get, "/api/audit-events".toList),
  (.get, "/api/knowledge-sources".toList),
  (.post, "/api/knowledge-sources".toList),
  (.get, "/api/automations".toList),
  (.post, "/api/automations".toList)]

/-- The path that the client puts behind its base URL for a route. -/
def clientPath (segment : List Char) (r : Route) : List Char := "/api".toList ++ r.address segment

/-- The URL that a client made with `baseUrl` requests for a route; none when it requests
nothing. -/
def clientUrl (baseUrl segment : List Char) (r : Route) : Option (List Char) :=
  match trimTrailingSlash (some baseUrl) with
  | none | some [] => none
  | some base => some (buildUrl (some base) (clientPath segment r))

/-- A route without an id is requested by a method of the client, and one with an id by a method of
`ClientOp`. -/
theorem route_cases {r : Route} (h : r ∈ routes) :
    (∃ m p call, r = .exact m p call ∧ (m, "/api".toList ++ p) ∈ clientRequests ∧ isUrlPath p ∧
        p ≠ [] ∧ m ≠ .options ∧ route m p = some call) ∨
      ∃ op : ClientOp, r = .entity op.method (op.before.drop 4) op.after op.entityOp := by
  have hall : routes.all (fun r => match r with
      | .exact m p call => (m, "/api".toList ++ p) ∈ clientRequests ∧ isUrlPath p ∧ p ≠ [] ∧
          m ≠ .options ∧ route m p = some call
      | .entity m b a o =>
        [ClientOp.getWorkflowDetail, .startWorkflowRun, .getWorkflowRunDetail, .retryWorkflowRun,
          .getSessionDetail, .toggleAutomation, .runAutomation].any fun op =>
            m = op.method ∧ b = op.before.drop 4 ∧ a = op.after ∧ o = op.entityOp) := by
    decide +kernel
  have hr := List.all_eq_true.1 hall r h
  cases r with
  | exact m p call => exact .inl ⟨m, p, call, rfl, by simpa using hr⟩
  | entity m b a o =>
    obtain ⟨op, -, hop⟩ := List.any_eq_true.1 hr
    obtain ⟨rfl, rfl, rfl, rfl⟩ := of_decide_eq_true hop
    exact .inr ⟨op, rfl⟩

section Routes

variable {r : Route} {segment : List Char}

theorem isSegment_iff : isSegment segment ↔ segment ≠ [] ∧ '/' ∉ segment ∧ isPathTail segment := by
  simp [isSegment, and_assoc]

theorem address_head (h : r ∈ routes) (segment : List Char) :
    ∃ q, r.address segment = '/' :: q := by
  rcases route_cases h with ⟨m, q, call, rfl, -, hq, -⟩ | ⟨op, rfl⟩
  · unfold isUrlPath at hq
    split at hq
    · exact ⟨_, rfl⟩
    · cases hq
  · obtain ⟨c, d, q, hq, -⟩ := op.routePath_head segment
    exact ⟨_, hq⟩

/-- The address of a route is a path below the base path. -/
theorem isUrlPath_address (h : r ∈ routes) (hs : isSegment segment) {p : List Char}
    (hp : isUrlPath p) : isUrlPath (p ++ r.address segment) := by
  rcases route_cases h with ⟨m, q, call, rfl, -, hq, -⟩ | ⟨op, rfl⟩
  · obtain ⟨tail, rfl⟩ : ∃ tail, q = '/' :: tail := address_head h segment
    have htail : isPathTail tail := hq
    change isUrlPath (p ++ '/' :: tail) = true
    rw [isUrlPath_append, htail]
    simp [hp]
  · exact (op.isUrlPath_routePath segment p).2 ⟨.inr hp, (isSegment_iff.1 hs).2.2⟩

theorem method_ne_options (h : r ∈ routes) : r.method ≠ .options := by
  rcases route_cases h with ⟨m, q, call, rfl, -, -, -, hm, -⟩ | ⟨op, rfl⟩
  · exact hm
  · cases op <;> decide

/-- The first route that matches an address is the route itself. -/
theorem route_address (h : r ∈ routes) (hs : isSegment segment) :
    route r.method (r.address segment) = some (r.handler segment) := by
  rcases route_cases h with ⟨m, q, call, rfl, -, -, -, -, hcall⟩ | ⟨op, rfl⟩
  · exact hcall
  · exact op.route_routePath segment (isSegment_iff.1 hs).1 (isSegment_iff.1 hs).2.1

end Routes

/-! ## The product API -/

/-- The routes of a server are reachable below the URL that it reports. -/
structure Reachable (parser : UrlParser) (config : ProductApiServerConfig) (port : ℕ) : Prop where
  /-- A request to the URL and the address of a route is dispatched to its handler. -/
  dispatched : ∀ r ∈ routes, ∀ segment, isSegment segment →
    (parser.requestTarget (config.url port ++ r.address segment)).bind
        (handle parser config r.method) = some (.call (r.handler segment))
  /-- A client made with the URL sends its request for a route to that address. -/
  requested : ∀ r ∈ routes, ∀ segment, isSegment segment →
    clientUrl (config.url port) segment r = some (config.url port ++ r.address segment)

/-- The base path is a path that ends in `/api` and names no host, and no address that is read is
the health path. -/
structure Addressable (config : ProductApiServerConfig) : Prop where
  path : isUrlPath config.basePath
  host : ¬ ['/', '/'] <+: config.basePath
  api : "/api".toList <:+ config.basePath
  health : ∀ r ∈ routes, r.method = .get → ∀ segment, isSegment segment →
    config.basePath ++ r.address segment ≠ config.healthPath

section

variable {parser : UrlParser} {config : ProductApiServerConfig} {port : ℕ}

/-- A client that requests the address of a route was made with a URL that ends in `/api`. -/
theorem api_of_clientUrl {r : Route} (h : r ∈ routes) {segment url : List Char}
    (hrequest : clientUrl url segment r = some (url ++ r.address segment)) :
    "/api".toList <:+ url := by
  obtain ⟨q, hq⟩ := address_head h segment
  unfold clientUrl at hrequest
  split at hrequest
  · cases hrequest
  · cases hrequest
  · rename_i base _ _
    have hurl := Option.some.inj hrequest
    unfold buildUrl clientPath at hurl
    dsimp only at hurl
    split_ifs at hurl with hapi
    · rw [List.drop_left' (by decide), List.append_cancel_right_eq] at hurl
      rw [← hurl]
      exact hapi.1
    · rw [← List.append_assoc, List.append_cancel_right_eq] at hurl
      exact ⟨base, hurl⟩

theorem clientUrl_of_api {r : Route} (h : r ∈ routes) (segment : List Char)
    (hconfig : Addressable config) :
    clientUrl (config.url port) segment r = some (config.url port ++ r.address segment) := by
  have htrim : trimTrailingSlash (some (config.url port)) = some (config.url port) := by
    rw [trimTrailingSlash_url config port (.inr hconfig.path), trimSlash,
      if_neg (not_slash_of_api hconfig.api), ProductApiServerConfig.url]
  have hapi : "/api".toList <:+ config.url port :=
    hconfig.api.trans (List.suffix_append _ _)
  have hprefix : "/api/".toList <+: clientPath segment r := by
    obtain ⟨q, hq⟩ := address_head h segment
    refine ⟨q, ?_⟩
    rw [clientPath, hq]
    rfl
  obtain ⟨u, hu⟩ := List.head?_eq_some_iff.1 (httpBaseUrl_head config.host port config.basePath)
  change config.url port = 'h' :: u at hu
  rw [clientUrl, htrim, hu]
  dsimp only
  rw [← hu, buildUrl, if_pos ⟨hapi, hprefix⟩, clientPath, List.drop_left' (by decide)]

/-- The path that the server reads of a request to the address of a route. -/
theorem pathname_address (hparser : parser.Standard (httpBaseUrl config.host port))
    (hpath : isUrlPath config.basePath) (hhost : ¬ ['/', '/'] <+: config.basePath)
    (hapi : "/api".toList <:+ config.basePath) {r : Route} (hr : r ∈ routes) {segment : List Char}
    (hs : isSegment segment) :
    parser.requestTarget (config.url port ++ r.address segment) =
        some (config.basePath ++ r.address segment) ∧
      parser.pathname (config.basePath ++ r.address segment) =
        some (config.basePath ++ r.address segment) := by
  have hurl := isUrlPath_address hr hs hpath
  rw [ProductApiServerConfig.url, List.append_assoc]
  exact ⟨hparser.target_path _ hurl,
    hparser.pathname_path _ hurl fun h2 => hhost ((two_slashes hapi).1 h2)⟩

/-- A server that dispatches the requests for a session has a base path that is a path and names no
host. -/
theorem path_of_dispatched (hparser : parser.Standard (httpBaseUrl config.host port))
    (hapi : "/api".toList <:+ config.basePath) (op : ClientOp) {segment : List Char}
    (hs : isSegment segment)
    (h : (parser.requestTarget (config.url port ++ op.routePath segment)).bind
        (handle parser config op.method) =
      some (.call (.entity op.entityOp (JsString.ofChars segment)))) :
    isUrlPath config.basePath ∧ ¬ ['/', '/'] <+: config.basePath := by
  obtain ⟨hne, hslash, htail⟩ := isSegment_iff.1 hs
  obtain ⟨target, htarget, hhandle⟩ := Option.bind_eq_some_iff.1 h
  obtain ⟨segment', hp, -, hslash', -⟩ := handle_eq_entity.1 hhandle
  -- the path that the server reads is a path, and so is its base path
  have hread := hparser.pathname_isUrlPath _ _ (hparser.target_slash _ _ htarget) hp
  have hpath : isUrlPath config.basePath := by
    refine ((op.isUrlPath_routePath segment' config.basePath).1 hread).1.resolve_left fun h0 => ?_
    rw [h0] at hapi
    exact absurd hapi (by decide)
  refine ⟨hpath, fun h2 => ?_⟩
  have hurl := (op.isUrlPath_routePath segment config.basePath).2 ⟨.inr hpath, htail⟩
  rw [ProductApiServerConfig.url, List.append_assoc, hparser.target_path _ hurl,
    Option.some_inj] at htarget
  subst htarget
  -- the host in the target would take two slashes away
  rcases hparser.pathname_host _ _ hurl ((two_slashes hapi).2 h2) hp with hroot | hcount
  · obtain ⟨c, d, r, hr, -⟩ := op.routePath_head segment'
    have hlen := congrArg List.length hroot
    rw [hr] at hlen
    simp only [List.length_append, List.length_cons, List.length_nil] at hlen
    omega
  · rw [List.count_append, List.count_append, op.count_routePath _ hslash,
      op.count_routePath _ hslash'] at hcount
    omega

/-- The routes are reachable exactly when the configuration is addressable. -/
theorem reachable_iff (hparser : parser.Standard (httpBaseUrl config.host port)) :
    Reachable parser config port ↔ Addressable config := by
  constructor
  · rintro ⟨hdispatched, hrequested⟩
    have hroute : .entity .get "/sessions/".toList [] .getSessionDetail ∈ routes := by decide
    have hs : isSegment ['a'] := by decide
    have hapi : "/api".toList <:+ config.basePath :=
      (suffix_httpBaseUrl config.host port config.basePath (by simp)).1
        (api_of_clientUrl hroute (hrequested _ hroute _ hs))
    obtain ⟨hpath, hhost⟩ :=
      path_of_dispatched hparser hapi .getSessionDetail hs (hdispatched _ hroute _ hs)
    refine ⟨hpath, hhost, hapi, fun r hr hget segment hs => ?_⟩
    obtain ⟨htarget, hpathname⟩ := pathname_address hparser hpath hhost hapi hr hs
    have hhandle := hdispatched r hr segment hs
    rw [htarget, Option.bind_some, handle_eq_call] at hhandle
    obtain ⟨rest, hrest, -, hhealth, -⟩ := hhandle
    rw [hpathname, Option.some_inj] at hrest
    rw [hrest]
    exact hhealth hget
  · intro hconfig
    refine ⟨fun r hr segment hs => ?_, fun r hr segment _ => clientUrl_of_api hr segment hconfig⟩
    obtain ⟨htarget, hpathname⟩ :=
      pathname_address hparser hconfig.path hconfig.host hconfig.api hr hs
    rw [htarget, Option.bind_some, handle_eq_call]
    refine ⟨_, hpathname, method_ne_options hr, fun hget => hconfig.health r hr hget segment hs, ?_⟩
    obtain ⟨q, hq⟩ := address_head hr segment
    rw [if_neg (by rw [hq]; simp)]
    exact route_address hr hs

end

/-! ## The realtime gateway -/

/-- An upgrade to the URL that the gateway reports passes its path check. -/
def Upgradable (parser : UrlParser) (config : RealtimeGatewayServerConfig) (port : ℕ) : Prop :=
  (parser.requestTarget (config.url port)).bind (upgradeAccepted parser config) = some true

/-- An upgrade passes exactly when the path is one that the URL parser writes and names no host. -/
theorem upgradable_iff {parser : UrlParser} {config : RealtimeGatewayServerConfig} {port : ℕ}
    (hparser : parser.Standard (wsBaseUrl config.host port)) :
    Upgradable parser config port ↔ isUrlPath config.path ∧ ¬ ['/', '/'] <+: config.path := by
  unfold Upgradable upgradeAccepted
  constructor
  · intro h
    obtain ⟨target, htarget, hpathname⟩ := Option.bind_eq_some_iff.1 h
    obtain ⟨_, hp, hsame⟩ := Option.map_eq_some_iff.1 hpathname
    obtain rfl := of_decide_eq_true hsame
    have hpath := hparser.pathname_isUrlPath _ _ (hparser.target_slash _ _ htarget) hp
    rw [RealtimeGatewayServerConfig.url, hparser.target_path _ hpath, Option.some_inj] at htarget
    subst htarget
    refine ⟨hpath, fun h2 => ?_⟩
    rcases hparser.pathname_host _ _ hpath h2 hp with hroot | hcount
    · rw [hroot] at h2
      exact absurd h2 (by decide)
    · omega
  · rintro ⟨hpath, hhost⟩
    rw [RealtimeGatewayServerConfig.url, hparser.target_path _ hpath, Option.bind_some,
      hparser.pathname_path _ hpath hhost]
    exact congrArg some (decide_eq_true rfl)

/-- The configured paths are reachable exactly when both are paths as the URL parser writes them
that name no host, the base path ends in `/api`, and no address that is read is the health path. -/
theorem configured_paths_reachable_iff (parser socketParser : UrlParser) (env socketEnv : PathEnv)
    (port socketPort : ℕ)
    (hparser : parser.Standard (httpBaseUrl (loadProductApiServerConfig env).host port))
    (hsocket : socketParser.Standard
      (wsBaseUrl (loadRealtimeGatewayServerConfig socketEnv).host socketPort)) :
    (Reachable parser (loadProductApiServerConfig env) port ∧
        Upgradable socketParser (loadRealtimeGatewayServerConfig socketEnv) socketPort) ↔
      Addressable (loadProductApiServerConfig env) ∧
        isUrlPath (loadRealtimeGatewayServerConfig socketEnv).path ∧
        ¬ ['/', '/'] <+: (loadRealtimeGatewayServerConfig socketEnv).path :=
  and_congr (reachable_iff hparser) (upgradable_iff hsocket)

/-- An environment without the variables. -/
def emptyEnv : PathEnv := ⟨none, none, none⟩

theorem default_paths_reachable :
    Reachable (localParser "http://127.0.0.1:8788".toList) (loadProductApiServerConfig emptyEnv)
        8788 ∧
      Upgradable (localParser "ws://127.0.0.1:8787".toList)
        (loadRealtimeGatewayServerConfig emptyEnv) 8787 := by
  refine (configured_paths_reachable_iff _ _ emptyEnv emptyEnv 8788 8787
    (localParser_standard _) (localParser_standard _)).2 ⟨?_, by decide +kernel, by decide +kernel⟩
  exact {
    path := by decide +kernel
    host := by decide +kernel
    api := by decide +kernel
    health := fun r _ _ segment _ h => by
      have hbase : (loadProductApiServerConfig emptyEnv).basePath = "/api".toList :=
        by decide +kernel
      rw [hbase] at h
      have htwo := congrArg (List.take 2) h
      rw [List.take_append_of_le_length (by decide)] at htwo
      exact absurd htwo (by decide +kernel) }

/-- The environment in which the product API is served at the root. -/
def rootEnv : PathEnv := { emptyEnv with path := some ['/'] }

/-- At the root, the addresses of the routes begin with two slashes, and the client requests
others. -/
theorem root_unreachable :
    ¬ Reachable (localParser "http://127.0.0.1:8788".toList) (loadProductApiServerConfig rootEnv)
        8788 ∧
      (loadProductApiServerConfig rootEnv).url 8788 ++ "/workflows".toList =
        "http://127.0.0.1:8788//workflows".toList ∧
      clientUrl ((loadProductApiServerConfig rootEnv).url 8788) []
          (.exact .get "/workflows".toList .listWorkflows) =
        some "http://127.0.0.1:8788/api/workflows".toList := by
  refine ⟨fun h => ?_, by decide +kernel, by decide +kernel⟩
  have hrequested := h.requested (.exact .get "/workflows".toList .listWorkflows) (by decide) ['a']
    (by decide)
  exact absurd hrequested (by decide +kernel)

end Vertx
