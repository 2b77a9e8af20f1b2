import SessionRouter.Config.Publish

/-!
A binding that was checked before the exchange can be published after it, if every route names the
authority of its URL. A route without one is read in two ways, and the second is refused too late.
-/

namespace SessionRouter.Config

open Onboarding (HostPath OnboardingTicket OnboardingRoute occursIn)

/-- What a check of a path said it still says, or it ends with an error in `E`. -/
def NodesFollow (E : ConfigError → Prop) (before after : Nodes) : Prop :=
  ∀ path last, (validatePrefix before path last).Follows E (validatePrefix after path last)

/-- The path is among those that the checks of a profile look up. -/
def Profile.Stores (profile : Profile) (path : HostPath) : Prop :=
  (profile.serverId.isSome = true ∧ ∃ route ∈ profile.routes, route.caFile = some path) ∨
    ∃ key binding, profile.bindings.get? key = some binding ∧ binding.credentialFile = path

def ConfigFile.Stores (config : ConfigFile) (path : HostPath) : Prop :=
  ∃ name profile, config.profiles.get? name = some profile ∧ profile.Stores path

section paths

variable {E : ConfigError → Prop} {before after : Nodes}

theorem validateParts_follows (h : NodesFollow E before after) (current parts : List String) :
    (validateParts before current parts).Follows E (validateParts after current parts) := by
  induction parts generalizing current with
  | nil => exact .refl _
  | cons part parts ih =>
    exact .bind (.refl _) fun _ => .bind (h _ _) fun _ => ih _

theorem validateStoredPath_follows (h : NodesFollow E before after) (path : HostPath) :
    (validateStoredPath before path).Follows E (validateStoredPath after path) :=
  .bind (.refl _) fun _ => .bind (h _ _) fun _ => validateParts_follows h _ _

variable [UrlParser] [ConfigEnv]

omit [ConfigEnv] in
theorem storedCandidate_follows {route : StoredOnboardingRoute}
    (h : ∀ path, route.caFile = some path →
      (validateStoredPath before path).Follows E (validateStoredPath after path)) :
    (storedCandidate before route).Follows E (storedCandidate after route) := by
  refine .bind (.refl _) fun url => .bind ?_ fun _ => .refl _
  cases hca : route.caFile with
  | none => exact .refl _
  | some path => exact .bind (.refl _) fun _ => h path hca

theorem validateStoredRoutes_follows {routes : List StoredOnboardingRoute}
    (h : ∀ route ∈ routes, ∀ path, route.caFile = some path →
      (validateStoredPath before path).Follows E (validateStoredPath after path)) :
    (validateStoredRoutes before routes).Follows E (validateStoredRoutes after routes) :=
  .bind (.mapM fun route hroute => storedCandidate_follows (h route hroute)) fun _ => .refl _

theorem validateProfile_follows {profile : Profile} (name : String)
    (h : ∀ path, profile.Stores path →
      (validateStoredPath before path).Follows E (validateStoredPath after path)) :
    (validateProfile before name profile).Follows E (validateProfile after name profile) := by
  refine .bind (.refl _) fun _ => .bind (.refl _) fun _ => .bind (.refl _) fun _ =>
    .bind (.refl _) fun _ => .bind ?_ fun _ => .forM fun binding hbinding => ?_
  · unfold validateServerRoutes
    cases hserver : profile.serverId with
    | none => exact .refl _
    | some id =>
      refine .bind (validateStoredRoutes_follows fun route hroute path hpath => ?_) fun _ => .refl _
      exact h path (.inl ⟨by rw [hserver]; rfl, route, hroute, hpath⟩)
  · obtain ⟨key, binding⟩ := binding
    rw [Table.mem_toList] at hbinding
    exact h _ (.inr ⟨key, binding, hbinding, rfl⟩)

/-- The check of a configuration looks at the file system for the stored paths alone. -/
theorem validateConfig_follows {config : ConfigFile}
    (h : ∀ path, config.Stores path →
      (validateStoredPath before path).Follows E (validateStoredPath after path)) :
    (validateConfig before config).Follows E (validateConfig after config) := by
  refine .bind (.refl _) fun _ => .bind (.refl _) fun _ => .forM fun entry hentry => ?_
  obtain ⟨name, profile⟩ := entry
  rw [Table.mem_toList] at hentry
  exact validateProfile_follows name fun path hpath => h path ⟨name, profile, hentry, hpath⟩

end paths

section urls

variable [UrlParser] {raw : String} {u url : Url}

omit [UrlParser] in
theorem trim_printable {s : String} (h : s.toList.any isWhitespace = false) : trim s = s := by
  have hdrop : ∀ l : List Char, l.any isWhitespace = false → l.dropWhile isWhitespace = l := by
    intro l hl
    cases l with
    | nil => rfl
    | cons c l =>
      rw [List.any_cons, Bool.or_eq_false_iff] at hl
      exact List.dropWhile_cons_of_neg (by simp [hl.1])
  unfold trim
  rw [hdrop _ h, hdrop _ (by rw [List.any_reverse]; exact h), List.reverse_reverse,
    String.ofList_toList]

/-- What a URL looks like whose text the configuration accepts. -/
theorem normalizeRouterUrl_ok : normalizeRouterUrl raw = .ok url ↔
    trim raw ≠ "" ∧ (trim raw).toList.any isWhitespace = false ∧
      ∃ u, parse (candidateUrl (trim raw)) = some u ∧ u.isSocket = true ∧ u.isPlain = true ∧
        u.host.isSome = true ∧
        url = if u.path = "" || u.path = "/" then { u with path := "/ws" } else u := by
  have hport : ∀ u : Url, u.isSocket = true → u.portOrKnownDefault.isNone = false := by
    intro u hu
    unfold Url.isSocket at hu
    unfold Url.portOrKnownDefault
    simp only [Bool.or_eq_true, decide_eq_true_eq] at hu
    rcases hu with hu | hu <;> rw [hu] <;> cases u.port <;> rfl
  unfold normalizeRouterUrl
  by_cases htext : (trim raw = "" || (trim raw).toList.any isWhitespace) = true
  · rw [if_pos htext]
    constructor
    · nofun
    · rintro ⟨hne, hprint, -⟩
      simp [hne, hprint] at htext
  · rw [if_neg htext]
    simp only [Bool.or_eq_true, decide_eq_true_eq, not_or, Bool.not_eq_true] at htext
    cases hparse : parse (candidateUrl (trim raw)) with
    | none => simp
    | some u =>
      dsimp only
      by_cases hbad : (!u.isSocket || !u.isPlain || u.host.isNone) = true
      · rw [if_pos hbad]
        constructor
        · nofun
        · rintro ⟨-, -, v, hv, hsocket, hplain, hhost, -⟩
          obtain rfl := Option.some.inj hv
          simp [hsocket, hplain, Option.isSome_iff_ne_none.mp hhost] at hbad
      · rw [if_neg hbad]
        simp only [Bool.or_eq_true, Bool.not_eq_true', not_or, Bool.not_eq_false,
          Bool.not_eq_true, Option.isNone_eq_false_iff] at hbad
        obtain ⟨⟨hsocket, hplain⟩, hhost⟩ := hbad
        rw [hport u hsocket, Bool.and_false, if_neg Bool.false_ne_true]
        constructor
        · intro h
          exact ⟨htext.1, htext.2, u, rfl, hsocket, hplain, hhost, (Except.ok.inj h).symm⟩
        · rintro ⟨-, -, v, hv, -, -, -, rfl⟩
          obtain rfl := Option.some.inj hv
          rfl

variable [UrlStandard]

/-- The URL that is stored for a text is read back as it is. -/
theorem normalizeRouterUrl_href (h : normalizeRouterUrl raw = .ok url) :
    parse (href url) = some url ∧ normalizeRouterUrl (href url) = .ok url := by
  obtain ⟨-, -, u, hu, hsocket, hplain, hhost, hurl⟩ := normalizeRouterUrl_ok.mp h
  obtain ⟨path, hpath, rfl, hne⟩ : ∃ path, (path = u.path ∨ path = "/ws") ∧
      url = { u with path } ∧ path ≠ "" ∧ path ≠ "/" := by
    by_cases hshort : (u.path = "" || u.path = "/") = true
    · rw [if_pos hshort] at hurl
      exact ⟨"/ws", .inr rfl, hurl, by decide, by decide⟩
    · rw [if_neg hshort] at hurl
      simp only [Bool.or_eq_true, decide_eq_true_eq, not_or] at hshort
      exact ⟨u.path, .inl rfl, hurl, hshort⟩
  have hparse := UrlStandard.parse_href hu hsocket path hpath
  obtain ⟨hauthority, hprint⟩ := UrlStandard.href_text hu hsocket path hpath
  have htrim := trim_printable hprint
  refine ⟨hparse, normalizeRouterUrl_ok.mpr ?_⟩
  rw [htrim]
  refine ⟨?_, hprint, { u with path }, ?_, hsocket, hplain, hhost, ?_⟩
  · intro hempty
    rw [hempty] at hauthority
    exact absurd hauthority (by decide)
  · unfold candidateUrl
    rw [if_pos hauthority]
    exact hparse
  · rw [if_neg]
    simp only [Bool.or_eq_true, decide_eq_true_eq, not_or]
    exact hne

/-- The text of a URL names its authority. -/
def hasAuthority (raw : String) : Bool := occursIn "://" (trim raw)

omit [UrlParser] [UrlStandard] in
theorem validRouteUrl_socket {kind : Onboarding.RouteKind} (h : validRouteUrl kind u = true) :
    u.path = "/ws" ∧ u.isPlain = true ∧ u.isSocket = true := by
  unfold validRouteUrl at h
  simp only [Bool.and_eq_true, decide_eq_true_eq, Option.any_eq_true] at h
  obtain ⟨⟨hpath, hplain⟩, host, -, -, hkind⟩ := h
  refine ⟨hpath, hplain, ?_⟩
  unfold Url.isSocket
  cases kind with
  | local_ =>
    simp only [Bool.and_eq_true] at hkind
    exact hkind.2
  | lan | public_ =>
    simp only [Bool.and_eq_true, decide_eq_true_eq] at hkind
    simp [hkind.2]
  | tailnet =>
    simp only [Bool.and_eq_true, decide_eq_true_eq] at hkind
    simp [hkind.1]

/-- A text with an authority has one reading. -/
theorem read_authority {kind : Onboarding.RouteKind} (hparse : parse raw = some u)
    (hvalid : validRouteUrl kind u = true) (hauthority : hasAuthority raw = true)
    (h : normalizeRouterUrl raw = .ok url) : url = u := by
  obtain ⟨hpath, hplain, -⟩ := validRouteUrl_socket hvalid
  obtain ⟨-, -, v, hv, -, -, -, hurl⟩ := normalizeRouterUrl_ok.mp h
  unfold hasAuthority at hauthority
  unfold candidateUrl at hv
  rw [if_pos hauthority] at hv
  unfold Url.isPlain at hplain
  simp only [Bool.and_eq_true, Option.isNone_iff_eq_none] at hplain
  rw [UrlStandard.parse_trim hparse hpath hplain.1.2 hplain.2] at hv
  obtain rfl := Option.some.inj hv
  rw [hurl, if_neg (by simp [hpath])]

/-- A text without an authority has a second reading, which fits no route. -/
theorem read_guess {kind : Onboarding.RouteKind} (hparse : parse raw = some u)
    (hvalid : validRouteUrl kind u = true) (hauthority : hasAuthority raw = false)
    (h : normalizeRouterUrl raw = .ok url) (kind' : Onboarding.RouteKind) :
    validRouteUrl kind' url = false := by
  obtain ⟨-, -, hsocket⟩ := validRouteUrl_socket hvalid
  obtain ⟨-, -, v, hv, -, hplain, -, hurl⟩ := normalizeRouterUrl_ok.mp h
  unfold candidateUrl at hv
  unfold hasAuthority at hauthority
  rw [if_neg (by simp [hauthority])] at hv
  obtain ⟨hscheme, hhost⟩ := UrlStandard.parse_guess hparse hsocket hauthority hv
  have huser : v.username = "" := by
    unfold Url.isPlain at hplain
    simp only [Bool.and_eq_true, decide_eq_true_eq] at hplain
    exact hplain.1.1.1
  have hloopback : (Host.domain u.scheme).isLoopback = false := by
    unfold Url.isSocket at hsocket
    simp only [Bool.or_eq_true, decide_eq_true_eq] at hsocket
    rcases hsocket with hs | hs <;> rw [hs] <;> decide
  have hurlHost : url.host = some (.domain u.scheme) ∧ url.scheme = "ws" := by
    rw [hurl]
    split
    · exact ⟨hhost huser, hscheme⟩
    · exact ⟨hhost huser, hscheme⟩
  unfold validRouteUrl
  rw [hurlHost.1, hurlHost.2, Option.any_some]
  cases kind' with
  | local_ => simp [hloopback]
  | lan | public_ => simp
  | tailnet => simp [Host.isTailnet]

end urls

section routes

variable [UrlParser] [ConfigEnv] {nodes : Nodes} {persists : String → Bool}
  {caDirectory : HostPath} {route : OnboardingRoute} {stored : StoredOnboardingRoute}

theorem storeRoute_ok (h : storeRoute persists caDirectory route = .ok stored) :
    ∃ url, normalizeRouterUrl route.routerUrl = .ok url ∧
      stored = { kind := route.kind, routerUrl := href url,
                 caFile := route.caPem.map fun pem => caDirectory.join (caName pem) } := by
  obtain ⟨url, hurl, h⟩ := Except.bind_ok.mp h
  obtain ⟨_, -, h⟩ := Except.bind_ok.mp h
  exact ⟨url, hurl, (Except.ok.inj h).symm⟩

variable [UrlStandard]

/-- A stored route that is read as the ticket's own is accepted. -/
theorem storedCandidate_authority (hvalid : validRoute route = true)
    (hauthority : hasAuthority route.routerUrl = true)
    (hstore : storeRoute persists caDirectory route = .ok stored)
    (hca : ∀ pem, route.caPem = some pem →
      validateStoredPath nodes (caDirectory.join (caName pem)) = .ok ()) :
    (storedCandidate nodes stored).Ends
      (fun c => validRoute c = true ∧ c.kind = route.kind) fun _ => False := by
  obtain ⟨url, hurl, rfl⟩ := storeRoute_ok hstore
  unfold validRoute at hvalid
  simp only [Option.any_eq_true, Bool.and_eq_true] at hvalid
  obtain ⟨u, hparse, hkind, hpem⟩ := hvalid
  obtain rfl := read_authority hparse hkind hauthority hurl
  obtain ⟨hread, hnormal⟩ := normalizeRouterUrl_href hurl
  have hcaFile : validateStoredCa nodes url
      (route.caPem.map fun pem => caDirectory.join (caName pem)) = .ok () := by
    cases hpem' : route.caPem with
    | none => rfl
    | some pem =>
      rw [hpem', Option.all_some, Bool.and_eq_true] at hpem
      show (Except.require (decide (url.scheme = "wss")) _ >>= fun _ => _) = _
      rw [hpem.1]
      exact hca pem hpem'
  unfold storedCandidate
  rw [hnormal]
  show (validateStoredCa _ _ _ >>= _).Ends _ _
  rw [hcaFile]
  refine ⟨?_, rfl⟩
  unfold validRoute
  simp only [hread, Option.any_some, hkind, Option.all_none, Bool.and_self]

/-- A stored route that is read in another way is not. -/
theorem storedCandidate_guess (hvalid : validRoute route = true)
    (hauthority : hasAuthority route.routerUrl = false)
    (hstore : storeRoute persists caDirectory route = .ok stored)
    (hca : ∀ pem, route.caPem = some pem →
      validateStoredPath nodes (caDirectory.join (caName pem)) = .ok ()) :
    (storedCandidate nodes stored).Ends (fun c => validRoute c = false) fun e => e = .invalid := by
  obtain ⟨url, hurl, rfl⟩ := storeRoute_ok hstore
  unfold validRoute at hvalid
  simp only [Option.any_eq_true, Bool.and_eq_true] at hvalid
  obtain ⟨u, hparse, hkind, -⟩ := hvalid
  obtain ⟨hread, hnormal⟩ := normalizeRouterUrl_href hurl
  have hrefused := read_guess hparse hkind hauthority hurl
  have hcaFile : (validateStoredCa nodes url
      (route.caPem.map fun pem => caDirectory.join (caName pem))).Ends (fun _ => True)
        fun e => e = .invalid := by
    cases hpem : route.caPem with
    | none => exact trivial
    | some pem =>
      show (Except.require (decide (url.scheme = "wss")) _ >>= fun _ => _).Ends _ _
      rw [Except.ends_bind, Except.ends_require]
      refine ⟨fun _ => ?_, fun _ => rfl⟩
      rw [hca pem hpem]
      exact trivial
  unfold storedCandidate
  rw [hnormal]
  show (validateStoredCa _ _ _ >>= _).Ends _ _
  rw [Except.ends_bind]
  refine hcaFile.mono (fun _ _ => ?_) fun _ he => he
  show validRoute _ = false
  unfold validRoute
  simp only [hread, Option.any_some, hrefused, Bool.false_and]

omit [UrlStandard] in
/-- The rules about a list of routes are rules about their kinds. -/
theorem validateRoutes_of_kinds {routes candidates : List OnboardingRoute}
    (h : validateRoutes routes = true)
    (hkinds : candidates.map OnboardingRoute.kind = routes.map OnboardingRoute.kind)
    (hvalid : ∀ c ∈ candidates, validRoute c = true) : validateRoutes candidates = true := by
  have hlength : candidates.length = routes.length := by
    simpa using congrArg List.length hkinds
  unfold validateRoutes at h ⊢
  simp only [Bool.and_eq_true, Bool.not_eq_true', List.isEmpty_eq_false_iff, decide_eq_true_eq,
    List.all_eq_true, Bool.or_eq_true] at h ⊢
  obtain ⟨⟨⟨⟨hne, hmax⟩, hnodup⟩, hlocal⟩, -⟩ := h
  refine ⟨⟨⟨⟨?_, hlength ▸ hmax⟩, hkinds ▸ hnodup⟩, ?_⟩, hvalid⟩
  · rintro rfl
    exact hne (List.length_eq_zero_iff.mp hlength.symm)
  · intro c hc
    have hmem : c.kind ∈ routes.map OnboardingRoute.kind := hkinds ▸ List.mem_map_of_mem hc
    obtain ⟨r, hr, hkind⟩ := List.mem_map.mp hmem
    rw [hlength, ← hkind]
    exact hlocal r hr

omit [UrlParser] [ConfigEnv] [UrlStandard] in
theorem forall₂_exists {α β : Type} {R : α → β → Prop} {l : List α} {l' : List β}
    (h : List.Forall₂ R l l') :
    (∀ a ∈ l, ∃ b ∈ l', R a b) ∧ ∀ b ∈ l', ∃ a ∈ l, R a b := by
  induction h with
  | nil => simp
  | cons hab _ ih =>
    simp only [List.forall_mem_cons, List.exists_mem_cons_iff]
    exact ⟨⟨.inl hab, fun a ha => .inr (ih.1 a ha)⟩, .inl hab, fun b hb => .inr (ih.2 b hb)⟩

variable {routes : List OnboardingRoute} {storedRoutes : List StoredOnboardingRoute}

/-- The stored routes are accepted exactly when every route names its authority. -/
theorem validateStoredRoutes_iff (hvalid : validateRoutes routes = true)
    (hstore : routes.mapM (storeRoute persists caDirectory) = .ok storedRoutes)
    (hca : ∀ route ∈ routes, ∀ pem, route.caPem = some pem →
      validateStoredPath nodes (caDirectory.join (caName pem)) = .ok ()) :
    (validateStoredRoutes nodes storedRoutes).Ends
      (fun _ => ∀ route ∈ routes, hasAuthority route.routerUrl = true)
      fun e => e = .invalid ∧ ¬ ∀ route ∈ routes, hasAuthority route.routerUrl = true := by
  have hpairs := Except.mapM_ok.mp hstore
  obtain ⟨hleft, hright⟩ := forall₂_exists hpairs
  have hroute : ∀ route ∈ routes, validRoute route = true := by
    unfold validateRoutes at hvalid
    simp only [Bool.and_eq_true, List.all_eq_true] at hvalid
    exact hvalid.2
  have hkinds : storedRoutes.map StoredOnboardingRoute.kind = routes.map OnboardingRoute.kind := by
    clear hleft hright hstore hvalid hca hroute
    induction hpairs with
    | nil => rfl
    | cons hab _ ih =>
      obtain ⟨url, -, rfl⟩ := storeRoute_ok hab
      rw [List.map_cons, List.map_cons, ih]
  unfold validateStoredRoutes
  rw [Except.ends_bind]
  by_cases hall : ∀ route ∈ routes, hasAuthority route.routerUrl = true
  · have heach : ∀ stored ∈ storedRoutes, (storedCandidate nodes stored).Ends
        (fun c => validRoute c = true ∧ c.kind = stored.kind) fun _ => False := by
      intro stored hstored
      obtain ⟨route, hmem, hone⟩ := hright stored hstored
      have hcandidate := storedCandidate_authority (hroute route hmem) (hall route hmem) hone
        (hca route hmem)
      obtain ⟨url, -, rfl⟩ := storeRoute_ok hone
      exact hcandidate
    refine (Except.Ends.mapM heach).mono (fun candidates hcandidates => ?_) fun _ hfalse =>
      hfalse.elim
    have hsame : candidates.map OnboardingRoute.kind = routes.map OnboardingRoute.kind := by
      rw [← hkinds]
      clear hkinds hpairs heach hleft hright hstore
      induction hcandidates with
      | nil => rfl
      | cons hab _ ih => rw [List.map_cons, List.map_cons, hab.2, ih]
    have hvalid' : ∀ c ∈ candidates, validRoute c = true := by
      intro c hc
      obtain ⟨stored, -, hone⟩ := (forall₂_exists hcandidates).2 c hc
      exact hone.1
    rw [Except.ends_require, validateRoutes_of_kinds hvalid hsame hvalid']
    exact ⟨fun _ => hall, nofun⟩
  · have heach : ∀ stored ∈ storedRoutes, (storedCandidate nodes stored).Ends
        (fun c => ∀ route ∈ routes, hasAuthority route.routerUrl = false →
          storeRoute persists caDirectory route = .ok stored → validRoute c = false)
        fun e => e = .invalid := by
      intro stored hstored
      by_cases hguess : ∃ route ∈ routes, hasAuthority route.routerUrl = false ∧
          storeRoute persists caDirectory route = .ok stored
      · obtain ⟨route, hmem, hauthority, hone⟩ := hguess
        refine (storedCandidate_guess (hroute route hmem) hauthority hone (hca route hmem)).mono
          (fun c hc => ?_) fun _ he => he
        exact fun _ _ _ _ => hc
      · obtain ⟨route, hmem, hone⟩ := hright stored hstored
        have hauthority : hasAuthority route.routerUrl = true := by
          by_contra hno
          exact hguess ⟨route, hmem, Bool.eq_false_iff.mpr hno, hone⟩
        refine (storedCandidate_authority (hroute route hmem) hauthority hone (hca route hmem)).mono
          (fun c _ => ?_) fun _ hfalse => hfalse.elim
        intro route' hmem' hauthority' hone'
        exact absurd ⟨route', hmem', hauthority', hone'⟩ hguess
    refine (Except.Ends.mapM heach).mono (fun candidates hcandidates => ?_) fun e he =>
      ⟨he, hall⟩
    push Not at hall
    obtain ⟨route, hmem, hauthority⟩ := hall
    obtain ⟨stored, hstored, hone⟩ := hleft route hmem
    obtain ⟨c, hc, hrefused⟩ := (forall₂_exists hcandidates).1 stored hstored
    have hfalse := hrefused route hmem (Bool.eq_false_iff.mpr hauthority) hone
    have hinvalid : validateRoutes candidates = false := by
      unfold validateRoutes
      rw [Bool.and_eq_false_iff]
      refine .inr (List.all_eq_false.mpr ⟨c, hc, ?_⟩)
      simp [hfalse]
    rw [Except.ends_require, hinvalid]
    refine ⟨nofun, fun _ => ⟨rfl, fun h => ?_⟩⟩
    exact hauthority (h route hmem)

end routes

end SessionRouter.Config
