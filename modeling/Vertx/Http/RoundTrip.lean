import Vertx.Http.Client

/-!
# Entity ids between the client and the server

A client made with the URL of a server escapes the id of an entity, and the server does not undo
the escaping.  `serve_eq_entity_iff` says when a call reaches the store operation with its own id:
when the base path of the server ends in `/api` and the id has nothing to escape.
-/

namespace Vertx

open JsString

/-! ## The base URL -/

theorem isPathChar_of_isUrlPath {p : List Char} (h : isUrlPath p) {c : Char} (hc : c ∈ p) :
    isPathChar c := by
  unfold isUrlPath at h
  split at h
  · rename_i q
    rcases List.mem_cons.1 hc with rfl | hc
    · decide
    · simp only [isPathTail, Bool.and_eq_true, List.all_eq_true] at h
      exact h.1 c hc
  · cases h

theorem not_isJsSpace {c : Char} (h : 0x21 ≤ c.toNat ∧ c.toNat ≤ 0x7E) : isJsSpace c = false := by
  simp only [isJsSpace, Bool.or_eq_false_iff, decide_eq_false_iff_not, Bool.and_eq_false_iff,
    List.mem_cons, List.not_mem_nil, or_false]
  omega

/-- Trimming keeps a text without white space at its ends. -/
theorem jsTrim_of_ends {cs : List Char} (hhead : ∀ c ∈ cs.head?, isJsSpace c = false)
    (hlast : ∀ c ∈ cs.getLast?, isJsSpace c = false) :
    (jsTrim (String.ofList cs)).toList = cs := by
  have hdrop :
      ∀ l : List Char, (∀ c ∈ l.head?, isJsSpace c = false) → l.dropWhile isJsSpace = l := by
    intro l hl
    cases l with
    | nil => rfl
    | cons c l => exact List.dropWhile_cons_of_neg (by simp [hl c rfl])
  have hrev := hdrop cs.reverse (by simpa using hlast)
  rw [jsTrim, String.toList_ofList, String.toList_ofList, hdrop cs hhead, hrev,
    List.reverse_reverse]

section Origin

variable (host : List Char) (port : ℕ)

theorem httpBaseUrl_head (cs : List Char) : (httpBaseUrl host port ++ cs).head? = some 'h' := by
  have hh : "http://".toList = 'h' :: "ttp://".toList := by decide
  unfold httpBaseUrl
  rw [hh]
  rfl

/-- The origin ends in a digit of the port. -/
theorem httpBaseUrl_last : ∃ m d, httpBaseUrl host port = m ++ [d] ∧ d.isDigit := by
  have hne : port.repr.toList ≠ [] := by
    rw [Nat.toList_repr]
    exact Nat.toDigits_ne_nil
  obtain ⟨ds, d, hd⟩ := (List.eq_nil_or_concat port.repr.toList).resolve_left hne
  have hdigit : d.isDigit := by
    refine Nat.isDigit_of_mem_toDigits (b := 10) (n := port) (by decide) (by decide) ?_
    rw [← Nat.toList_repr, hd]
    simp
  unfold httpBaseUrl
  rw [hd, List.concat_eq_append, ← List.cons_append, ← List.append_assoc]
  exact ⟨_, d, rfl, hdigit⟩

/-- What ends the server's URL and has no digit ends the base path. -/
theorem suffix_httpBaseUrl {w : List Char} (cs : List Char) (hw : ∀ c ∈ w, ¬ c.isDigit) :
    w <:+ httpBaseUrl host port ++ cs ↔ w <:+ cs := by
  refine ⟨fun h => ?_, fun h => h.trans (List.suffix_append _ _)⟩
  rcases List.suffix_or_suffix_of_suffix h (List.suffix_append _ _) with h' | ⟨y, rfl⟩
  · exact h'
  · obtain ⟨m, d, hmd, hd⟩ := httpBaseUrl_last host port
    have hy : y <:+ m ++ [d] := by
      obtain ⟨t, ht⟩ := h
      rw [← List.append_assoc, List.append_cancel_right_eq, hmd] at ht
      exact ⟨t, ht⟩
    rcases List.eq_nil_or_concat y with rfl | ⟨y', c, rfl⟩
    · exact List.suffix_rfl
    · obtain ⟨t, ht⟩ := hy
      rw [List.concat_eq_append, ← List.append_assoc] at ht
      obtain rfl : c = d := List.singleton_inj.1 (List.append_inj' ht rfl).2
      exact absurd hd (hw c (by simp))

end Origin

/-- The base path without its last slash, below which the server looks for `/api`. -/
def trimSlash (basePath : List Char) : List Char :=
  if ['/'] <:+ basePath then basePath.dropLast else basePath

/-- What the client puts between the server's origin and the route path. -/
def clientBase (basePath : List Char) : List Char :=
  if "/api".toList <:+ trimSlash basePath then trimSlash basePath
  else trimSlash basePath ++ "/api".toList

/-- The base URL of a client made with the server's URL. -/
theorem trimTrailingSlash_url (config : ProductApiServerConfig) (port : ℕ)
    (hb : config.basePath = [] ∨ isUrlPath config.basePath) :
    trimTrailingSlash (some (config.url port)) =
      some (httpBaseUrl config.host port ++ trimSlash config.basePath) := by
  have htrim : (jsTrim (String.ofList (config.url port))).toList = config.url port := by
    refine jsTrim_of_ends (fun c hc => ?_) (fun c hc => not_isJsSpace ?_)
    · rw [ProductApiServerConfig.url, httpBaseUrl_head, Option.mem_some_iff] at hc
      rw [← hc]
      decide
    · obtain ⟨m, d, hmd, hd⟩ := httpBaseUrl_last config.host port
      rw [ProductApiServerConfig.url, hmd, List.append_assoc, List.singleton_append,
        List.getLast?_append_cons, Option.mem_def] at hc
      have hc' := List.mem_of_getLast? hc
      rcases List.mem_cons.1 hc' with rfl | hcb
      · have hd' := Char.isDigit_iff_toNat.1 hd
        exact ⟨le_trans (by decide) hd'.1, le_trans hd'.2 (by decide)⟩
      · have hp : isPathChar c := by
          rcases hb with hb | hb
          · simp [hb] at hcb
          · exact isPathChar_of_isUrlPath hb hcb
        simp only [isPathChar, Bool.and_eq_true, decide_eq_true_eq] at hp
        exact hp.1
  have hne : config.url port ≠ [] := fun h => by
    have hh := httpBaseUrl_head config.host port config.basePath
    rw [← ProductApiServerConfig.url, h] at hh
    cases hh
  have hslash : ['/'] <:+ config.url port ↔ ['/'] <:+ config.basePath :=
    suffix_httpBaseUrl _ _ _ (by simp)
  simp only [trimTrailingSlash, htrim, if_neg hne, hslash, trimSlash]
  split_ifs with h
  · have hb' : config.basePath ≠ [] := by
      rintro hb'
      simp [hb'] at h
    rw [ProductApiServerConfig.url, List.dropLast_append_of_ne_nil hb']
  · rfl

/-- What a method of a client made with the server's URL requests. -/
theorem request_url (config : ProductApiServerConfig) (port : ℕ) (op : ClientOp) {id : JsString}
    (hb : config.basePath = [] ∨ isUrlPath config.basePath) {escaped : List Char}
    (he : encodeURIComponent id = .ok escaped) :
    op.request (some (config.url port)) id =
      .ok (some (httpBaseUrl config.host port ++
        (clientBase config.basePath ++ op.routePath escaped))) := by
  have hsuffix := @suffix_httpBaseUrl config.host port "/api".toList
    (trimSlash config.basePath) (by simp)
  have hprefix : "/api/".toList <+: op.path escaped := by
    have hb : "/api/".toList <+: op.before := by cases op <;> decide
    rw [ClientOp.path, List.append_assoc]
    exact hb.trans (List.prefix_append _ _)
  have hdrop : (op.path escaped).drop 4 = op.routePath escaped := by
    rw [op.path_eq]
    rfl
  obtain ⟨r, hr⟩ := List.head?_eq_some_iff.1
    (httpBaseUrl_head config.host port (trimSlash config.basePath))
  rw [ClientOp.request, he, trimTrailingSlash_url config port hb, hr]
  change Except.ok (some (buildUrl (some ('h' :: r)) (op.path escaped))) = _
  rw [← hr, buildUrl, hdrop, clientBase]
  simp only [hsuffix, hprefix, and_true]
  split_ifs
  · rw [List.append_assoc]
  · rw [op.path_eq, List.append_assoc, List.append_assoc]

theorem isUrlPath_trimSlash {p : List Char} (h : p = [] ∨ isUrlPath p) :
    trimSlash p = [] ∨ isUrlPath (trimSlash p) := by
  unfold trimSlash
  split_ifs with hs
  · obtain ⟨q, rfl⟩ := hs
    rw [List.dropLast_concat]
    have h' : (q = [] ∨ isUrlPath q) ∧ isPathTail [] := by simpa [isUrlPath_append] using h
    exact h'.1
  · exact h

theorem isUrlPath_clientBase {p : List Char} (h : p = [] ∨ isUrlPath p) :
    clientBase p = [] ∨ isUrlPath (clientBase p) := by
  unfold clientBase
  split_ifs
  · exact isUrlPath_trimSlash h
  · refine .inr ?_
    have happend := isUrlPath_append (trimSlash p) "api".toList
    have htail : isPathTail "api".toList := by decide
    simp only [isUrlPath_trimSlash h, htail, and_true, decide_true] at happend
    exact happend

/-! ## The request at the server -/

variable {parser : UrlParser} {config : ProductApiServerConfig} {port : ℕ} {op : ClientOp}
  {id : JsString}

theorem handle_eq_call {method : HttpMethod} {target : List Char} {call : ApiCall} :
    handle parser config method target = some (.call call) ↔
      ∃ rest, parser.pathname target = some (config.basePath ++ rest) ∧ method ≠ .options ∧
        (method = .get → config.basePath ++ rest ≠ config.healthPath) ∧
        route method (if rest = [] then ['/'] else rest) = some call := by
  rw [handle, Option.map_eq_some_iff]
  constructor
  · rintro ⟨pathname, hp, h⟩
    split_ifs at h with h1 h2 h3
    obtain ⟨rest, rfl⟩ := h3
    rw [List.drop_left] at h
    dsimp only at h
    cases hr : route method (if rest = [] then ['/'] else rest) with
    | none => simp [hr] at h
    | some c =>
      obtain rfl : c = call := by simpa [hr] using h
      exact ⟨rest, hp, h1, fun hm he => h2 ⟨hm, he⟩, hr⟩
  · rintro ⟨rest, hp, h1, h2, hr⟩
    refine ⟨_, hp, ?_⟩
    rw [if_neg h1, if_neg fun h => h2 h.1 h.2, if_pos (List.prefix_append _ _), List.drop_left]
    dsimp only
    rw [hr]

/-- The handler calls the operation of a method exactly for the paths of that method. -/
theorem handle_eq_entity {target : List Char} :
    handle parser config op.method target = some (.call (.entity op.entityOp id)) ↔
      ∃ segment, parser.pathname target = some (config.basePath ++ op.routePath segment) ∧
        segment ≠ [] ∧ '/' ∉ segment ∧ id = ofChars segment ∧
        (op.method = .get → config.basePath ++ op.routePath segment ≠ config.healthPath) := by
  rw [handle_eq_call]
  constructor
  · rintro ⟨rest, hp, -, hhealth, hr⟩
    obtain ⟨segment, hseg, hne, hs, rfl⟩ := op.of_route hr
    obtain ⟨c, d, r, hhead, -⟩ := op.routePath_head segment
    have hrest : rest = op.routePath segment := by
      split_ifs at hseg with h0
      · rw [hhead] at hseg
        cases hseg
      · exact hseg
    subst hrest
    exact ⟨segment, hp, hne, hs, rfl, hhealth⟩
  · rintro ⟨segment, hp, hne, hs, rfl, hhealth⟩
    refine ⟨_, hp, by cases op <;> decide, hhealth, ?_⟩
    obtain ⟨c, d, r, hhead, -⟩ := op.routePath_head segment
    rw [if_neg (by simp [hhead]), op.route_routePath _ hne hs]

/-- The calls that reach their operation: the base path is a path that ends in `/api` and names no
host, the id has nothing to escape, and a read does not ask for the health path. -/
structure Reaches (config : ProductApiServerConfig) (op : ClientOp) (id : JsString) : Prop where
  path : isUrlPath config.basePath
  host : ¬ ['/', '/'] <+: config.basePath
  api : "/api".toList <:+ config.basePath
  unreserved : ∀ u ∈ id, isUnreserved u
  health : op.method = .get →
    config.basePath ++ op.routePath (id.map unitChar) ≠ config.healthPath

theorem not_slash_of_api {p : List Char} (h : "/api".toList <:+ p) : ¬ ['/'] <:+ p := by
  rintro ⟨q, rfl⟩
  obtain ⟨r, hr⟩ := h
  have hlast : "/api".toList = "/ap".toList ++ ['i'] := by decide
  rw [hlast, ← List.append_assoc] at hr
  exact absurd (List.append_inj' hr rfl).2 (by decide)

theorem clientBase_of_api {p : List Char} (h : "/api".toList <:+ p) : clientBase p = p := by
  rw [clientBase, trimSlash, if_neg (not_slash_of_api h), if_pos h]

/-- What follows a base path that ends in `/api` does not make it name a host. -/
theorem two_slashes {p : List Char} (h : "/api".toList <:+ p) {q : List Char} :
    ['/', '/'] <+: p ++ q ↔ ['/', '/'] <+: p := by
  refine ⟨fun h2 => ?_, fun h2 => h2.trans (List.prefix_append _ _)⟩
  have hlen : ['/', '/'].length ≤ p.length := le_trans (by decide) h.length_le
  exact List.prefix_of_prefix_length_le h2 (List.prefix_append _ _) hlen

/-- A request target that the client sends and the path the server reads agree, or the target
names a host. -/
theorem route_of_paths {p : List Char} {s e : List Char}
    (h : p ++ op.routePath s = clientBase p ++ op.routePath e) :
    "/api".toList <:+ p ∧ s = e := by
  obtain ⟨c, d, r, hr, hc, hcd⟩ := op.routePath_head s
  obtain ⟨c', d', r', hr', hc', -⟩ := op.routePath_head e
  have happ : "/api".toList = ['/', 'a', 'p', 'i'] := by decide
  unfold clientBase trimSlash at h
  split_ifs at h with hs hapi hapi
  · obtain ⟨q, rfl⟩ := hs
    rw [List.dropLast_concat, List.append_assoc, List.append_cancel_left_eq, hr, hr'] at h
    exact absurd (List.cons.inj (List.cons.inj h).2).1.symm hc'
  · obtain ⟨q, rfl⟩ := hs
    rw [List.dropLast_concat, List.append_assoc, List.append_assoc, List.append_cancel_left_eq,
      hr, happ] at h
    simp at h
  · rw [List.append_cancel_left_eq] at h
    refine ⟨hapi, ?_⟩
    unfold ClientOp.routePath at h
    rwa [List.append_cancel_right_eq, List.append_cancel_left_eq] at h
  · rw [List.append_assoc, List.append_cancel_left_eq, hr, happ] at h
    simp only [List.cons_append, List.cons.injEq, true_and] at h
    exact absurd ⟨h.1, h.2.1⟩ hcd

/-- The slashes of the target and of the path the server would have to read. -/
theorem count_target (op : ClientOp) (p : List Char) {s e : List Char} (hs : '/' ∉ s)
    (he : '/' ∉ e) :
    (clientBase p ++ op.routePath e).count '/' < (p ++ op.routePath s).count '/' + 2 := by
  have hp : (trimSlash p).count '/' ≤ p.count '/' := by
    unfold trimSlash
    split_ifs
    · exact (List.dropLast_sublist p).count_le _
    · exact le_rfl
  have happ : "/api".toList.count '/' = 1 := by decide
  have hbase : (clientBase p).count '/' ≤ p.count '/' + 1 := by
    unfold clientBase
    split_ifs
    · omega
    · rw [List.count_append, happ]
      omega
  rw [List.count_append, List.count_append, op.count_routePath s hs, op.count_routePath e he]
  omega

theorem request_of_serve {outcome : Outcome} (h : serve parser config port op id = some outcome) :
    ∃ url target, op.request (some (config.url port)) id = .ok (some url) ∧
      parser.requestTarget url = some target ∧
      handle parser config op.method target = some outcome := by
  unfold serve at h
  split at h
  · rename_i url hreq
    obtain ⟨target, ht, hh⟩ := Option.bind_eq_some_iff.1 h
    exact ⟨url, target, hreq, ht, hh⟩
  · cases h

/-- A call on a client made with the server's URL reaches the operation with its own id exactly
when the base path ends in `/api` and the id has nothing to escape. -/
theorem serve_eq_entity_iff (parser : UrlParser) (config : ProductApiServerConfig) (port : ℕ)
    (op : ClientOp) (id : JsString) (hparser : parser.Standard (httpBaseUrl config.host port))
    (hne : id ≠ []) (hdot : id ≠ ofChars ['.']) (hdots : id ≠ ofChars ['.', '.']) :
    serve parser config port op id = some (.call (.entity op.entityOp id)) ↔
      Reaches config op id := by
  constructor
  · intro h
    cases he : encodeURIComponent id with
    | error x =>
      rw [serve, ClientOp.request, he] at h
      cases h
    | ok escaped =>
      have henc := encodes_of_encode he
      have hslash : '/' ∉ escaped := fun hm => (mem_encode henc hm).2 rfl
      obtain ⟨url, target, hreq, htarget, hhandle⟩ := request_of_serve h
      obtain ⟨segment, hp, -, hs, hid, hhealth⟩ := handle_eq_entity.1 hhandle
      -- the path that the server reads is a path, and so is its base path
      have hread := hparser.pathname_isUrlPath _ _ (hparser.target_slash _ _ htarget) hp
      have hb := ((op.isUrlPath_routePath segment config.basePath).1 hread).1
      have hurl : isUrlPath (clientBase config.basePath ++ op.routePath escaped) :=
        (op.isUrlPath_routePath escaped _).2
          ⟨isUrlPath_clientBase hb, isPathTail_encode henc hdot hdots⟩
      rw [request_url config port op hb he, Except.ok.injEq, Option.some.injEq] at hreq
      rw [← hreq, hparser.target_path _ hurl, Option.some.injEq] at htarget
      subst htarget
      have htwo : ¬ ['/', '/'] <+: clientBase config.basePath ++ op.routePath escaped := by
        intro h2
        rcases hparser.pathname_host _ _ hurl h2 hp with hroot | hcount
        · obtain ⟨c, d, r, hr, -⟩ := op.routePath_head segment
          have hlen := congrArg List.length hroot
          rw [hr] at hlen
          simp only [List.length_append, List.length_cons, List.length_nil] at hlen
          omega
        · have hlt := count_target op config.basePath hs hslash
          omega
      rw [hparser.pathname_path _ hurl htwo, Option.some.injEq] at hp
      obtain ⟨hapi, rfl⟩ := route_of_paths hp.symm
      rw [clientBase_of_api hapi] at htwo
      have hunres : ∀ u ∈ id, isUnreserved u := by
        refine henc.length_le.2 ?_
        have hlen := congrArg List.length hid
        rw [ofChars_length fun c hc => isPathChar_lt (mem_encode henc hc).1] at hlen
        exact hlen.symm
      have hchars : segment = id.map unitChar := by
        rw [encode_of_unreserved hunres, Except.ok.injEq] at he
        exact he.symm
      refine ⟨?_, fun h2 => htwo ((two_slashes hapi).2 h2), hapi, hunres, ?_⟩
      · refine hb.resolve_left fun h0 => ?_
        rw [h0] at hapi
        exact absurd hapi (by decide)
      · rwa [← hchars]
  · rintro ⟨hpath, hhost, hapi, hunres, hhealth⟩
    have he := encode_of_unreserved hunres
    have hbase := clientBase_of_api hapi
    have htail : isPathTail (id.map unitChar) :=
      isPathTail_encode (encodes_of_encode he) hdot hdots
    have hurl := (op.isUrlPath_routePath (id.map unitChar) config.basePath).2 ⟨.inr hpath, htail⟩
    have htwo : ¬ ['/', '/'] <+: config.basePath ++ op.routePath (id.map unitChar) :=
      fun h2 => hhost ((two_slashes hapi).1 h2)
    rw [serve, request_url config port op (.inr hpath) he, hbase]
    dsimp only
    rw [hparser.target_path _ hurl, Option.bind_some, handle_eq_entity]
    refine ⟨id.map unitChar, hparser.pathname_path _ hurl htwo, by simpa using hne, ?_, ?_, hhealth⟩
    · exact fun hm => (mem_encode (encodes_of_encode he) hm).2 rfl
    · exact (ofChars_unitChar hunres).symm

/-! ## One server -/

/-- A parser for the URLs of one origin whose paths are written as the URL parser writes them. -/
def localParser (origin : List Char) : UrlParser where
  requestTarget url :=
    if origin <+: url ∧ isUrlPath (url.drop origin.length) then some (url.drop origin.length)
    else none
  pathname target := if isUrlPath target ∧ ¬ ['/', '/'] <+: target then some target else none

theorem localParser_standard (origin : List Char) : (localParser origin).Standard origin where
  target_slash url t h := by
    simp only [localParser, Option.ite_none_right_eq_some, Option.some.injEq] at h
    obtain ⟨⟨-, hu⟩, rfl⟩ := h
    unfold isUrlPath at hu
    split at hu
    · rename_i q hq
      exact ⟨q, hq.symm⟩
    · cases hu
  target_path p hp := by
    simp [localParser, hp]
  pathname_path p hp h2 := if_pos ⟨hp, h2⟩
  pathname_isUrlPath t p _ h := by
    simp only [localParser, Option.ite_none_right_eq_some, Option.some.injEq] at h
    exact h.2 ▸ h.1.1
  pathname_host t p _ h2 h := by
    simp only [localParser, Option.ite_none_right_eq_some, Option.some.injEq] at h
    exact absurd h2 h.1.2

/-- The configuration without environment variables. -/
def defaultConfig : ProductApiServerConfig where
  host := "127.0.0.1".toList
  basePath := "/api".toList
  healthPath := "/healthz".toList

/-- The session key that the runtime gives its main session. -/
def mainSession : JsString := ofChars "agent:main:main".toList

/-- The server looks the main session up under an escaped key. -/
theorem serve_mainSession :
    (localParser (httpBaseUrl defaultConfig.host 8788)).Standard
        (httpBaseUrl defaultConfig.host 8788) ∧
      serve (localParser (httpBaseUrl defaultConfig.host 8788)) defaultConfig 8788
          .getSessionDetail mainSession =
        some (.call (.entity .getSessionDetail (ofChars "agent%3Amain%3Amain".toList))) ∧
      ofChars "agent%3Amain%3Amain".toList ≠ mainSession :=
  ⟨localParser_standard _, by decide +kernel, by decide +kernel⟩

/-- A session whose key has nothing to escape is looked up under its own key. -/
theorem serve_plainSession :
    serve (localParser (httpBaseUrl defaultConfig.host 8788)) defaultConfig 8788
        .getSessionDetail (ofChars "session-1".toList) =
      some (.call (.entity .getSessionDetail (ofChars "session-1".toList))) := by
  refine (serve_eq_entity_iff _ defaultConfig 8788 .getSessionDetail _ (localParser_standard _)
    (by decide +kernel) (by decide +kernel) (by decide +kernel)).2 ?_
  exact {
    path := by decide +kernel
    host := by decide +kernel
    api := by decide +kernel
    unreserved := List.all_eq_true.1 (by decide +kernel)
    health := by decide +kernel }

end Vertx
