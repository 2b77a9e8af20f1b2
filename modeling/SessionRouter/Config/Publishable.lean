import SessionRouter.Config.PublishSpec
import SessionRouter.Onboarding.JournalSpec

/-!
What the exchange of an invitation leads to: the binding that was checked before it is published
after it, exactly when all routes name an authority and no stored path is hidden by the cache of
certificates.
-/

namespace SessionRouter.Config

open Onboarding (HostPath OnboardingTicket OnboardingRoute)

section cache

variable [ConfigEnv] {nodes : Nodes} {routes : List OnboardingRoute} {caDirectory path : HostPath}

/-- A path that may be stored, apart from what the file system says about it. -/
def IsStorable (path : HostPath) : Prop :=
  path.absolute = true ∧ ".." ∉ path.parts ∧ path.parts ≠ [] ∧
    ∀ part ∈ path.parts, part.toList.any isControl = false

omit [ConfigEnv] in
theorem validateParts_ok {current parts : List String} :
    validateParts nodes current parts = .ok () ↔ ".." ∉ parts ∧
      ∀ p, p ≠ [] → p <+: parts →
        validatePrefix nodes (current ++ p) (decide (p = parts)) = .ok () := by
  induction parts generalizing current with
  | nil => exact ⟨fun _ => ⟨nofun, fun p hp h => absurd (List.prefix_nil.mp h) hp⟩, fun _ => rfl⟩
  | cons part parts ih =>
    show Except.require (decide (part ≠ "..")) _ >>= _ = _ ↔ _
    rw [Except.bind_unit_ok, Except.bind_unit_ok, Except.require_ok, decide_eq_true_eq, ih,
      List.mem_cons, not_or]
    have hlast : parts.isEmpty = decide ([part] = part :: parts) := by
      cases parts with
      | nil => simp
      | cons next rest => simp
    constructor
    · rintro ⟨hpart, hfirst, hdots, hrest⟩
      refine ⟨⟨Ne.symm hpart, hdots⟩, fun p hp hbelow => ?_⟩
      obtain ⟨q, rfl⟩ : ∃ q, p = part :: q := by
        cases p with
        | nil => exact absurd rfl hp
        | cons a q => exact ⟨q, by rw [(List.cons_prefix_cons.mp hbelow).1]⟩
      cases q with
      | nil => exact hlast ▸ hfirst
      | cons a q =>
        have hone := hrest (a :: q) (by simp) (List.cons_prefix_cons.mp hbelow).2
        rw [List.append_assoc] at hone
        simpa using hone
    · rintro ⟨⟨hpart, hdots⟩, hall⟩
      refine ⟨Ne.symm hpart, ?_, hdots, fun p hp hbelow => ?_⟩
      · rw [hlast]
        exact hall [part] (by simp) (by simp)
      · have hone := hall (part :: p) (by simp) (List.cons_prefix_cons.mpr ⟨rfl, hbelow⟩)
        rw [List.append_assoc]
        simpa using hone

omit [ConfigEnv] in
/-- A stored path is accepted when each of its prefixes is. -/
theorem validateStoredPath_ok : validateStoredPath nodes path = .ok () ↔
    IsStorable path ∧ ∀ p, p <+: path.parts →
      validatePrefix nodes p (decide (p = path.parts)) = .ok () := by
  unfold validateStoredPath IsStorable
  simp only [Except.bind_unit_ok, Except.require_ok, Bool.and_eq_true, List.all_eq_true,
    Bool.not_eq_true', validateParts_ok, List.nil_append]
  constructor
  · rintro ⟨⟨⟨habsolute, hlast⟩, hcontrol⟩, hroot, hdots, hbelows⟩
    have hne : path.parts ≠ [] := by
      intro h
      rw [h] at hlast
      exact absurd hlast (by decide)
    refine ⟨⟨habsolute, hdots, hne, hcontrol⟩, fun p hp => ?_⟩
    by_cases hnil : p = []
    · subst hnil
      rw [decide_eq_false (Ne.symm hne)]
      exact hroot
    · exact hbelows p hnil hp
  · rintro ⟨⟨habsolute, hdots, hne, hcontrol⟩, hbelows⟩
    refine ⟨⟨⟨habsolute, ?_⟩, hcontrol⟩, ?_, hdots, fun p _ hp => hbelows p hp⟩
    · rw [List.getLast?_eq_some_getLast hne, Option.any_some, decide_eq_true_eq]
      exact fun h => hdots (h ▸ List.getLast_mem hne)
    · have hroot := hbelows [] List.nil_prefix
      rwa [decide_eq_false (Ne.symm hne)] at hroot

/-- The cache of certificates leaves a path alone: no directory of the cache is made of it, and it
does not lead through a certificate. -/
def Clear (routes : List OnboardingRoute) (caDirectory path : HostPath) : Prop :=
  ∀ name ∈ routes.filterMap fun route => route.caPem.map caName,
    ¬ path.parts <+: caDirectory.parts ∧ (caDirectory.parts ++ [name] <+: path.parts →
      path.parts = caDirectory.parts ++ [name])

/-- What the cache makes of a node. -/
theorem cachedNodes_cases (nodes : Nodes) (p : List String) :
    (∃ name ∈ routes.filterMap fun route => route.caPem.map caName,
      (p <+: caDirectory.parts ∧ cachedNodes nodes routes caDirectory p = .directory) ∨
      (p = caDirectory.parts ++ [name] ∧ cachedNodes nodes routes caDirectory p = .file)) ∨
    (∀ name ∈ routes.filterMap fun route => route.caPem.map caName,
      ¬ p <+: caDirectory.parts ∧ p ≠ caDirectory.parts ++ [name]) ∧
      cachedNodes nodes routes caDirectory p = nodes p := by
  unfold cachedNodes
  dsimp only
  cases hnames : routes.filterMap fun route => route.caPem.map caName with
  | nil => exact .inr ⟨nofun, rfl⟩
  | cons name names =>
    rw [List.isEmpty_cons, if_neg Bool.false_ne_true]
    by_cases hbelow : p <+: caDirectory.parts
    · rw [if_pos hbelow]
      exact .inl ⟨name, List.mem_cons_self, .inl ⟨hbelow, rfl⟩⟩
    · rw [if_neg hbelow]
      by_cases hfile : ((name :: names).any fun name => p = caDirectory.parts ++ [name]) = true
      · rw [if_pos hfile]
        obtain ⟨found, hfound, hp⟩ := List.any_eq_true.mp hfile
        exact .inl ⟨found, hfound, .inr ⟨of_decide_eq_true hp, rfl⟩⟩
      · rw [if_neg hfile]
        refine .inr ⟨fun found hfound => ⟨hbelow, fun hp => hfile ?_⟩, rfl⟩
        exact List.any_eq_true.mpr ⟨found, hfound, decide_eq_true hp⟩

/-- What was acceptable is refused at most because a directory or a certificate is there now. -/
theorem cachedNodes_follow :
    NodesFollow (· = .invalid) nodes (cachedNodes nodes routes caDirectory) := by
  intro p last
  unfold validatePrefix
  rcases cachedNodes_cases nodes p with ⟨_, -, ⟨-, h⟩ | ⟨-, h⟩⟩ | ⟨-, h⟩ <;> rw [h]
  · intro _ _
    cases last with
    | false => rfl
    | true => rfl
  · intro _ _
    cases last with
    | false => rfl
    | true => rfl
  · exact .refl _

omit [ConfigEnv] in
theorem not_prefix_concat {l : List String} {name : String} : ¬ l ++ [name] <+: l := by
  intro h
  have hlength := h.length_le
  rw [List.length_append, List.length_singleton] at hlength
  omega

/-- A path that could be stored still can if the cache leaves it alone. -/
theorem cachedNodes_clear (h : validateStoredPath nodes path = .ok ()) :
    validateStoredPath (cachedNodes nodes routes caDirectory) path = .ok () ↔
      Clear routes caDirectory path := by
  obtain ⟨hstorable, hnodes⟩ := validateStoredPath_ok.mp h
  rw [validateStoredPath_ok]
  constructor
  · rintro ⟨-, hcached⟩ name hname
    constructor
    · intro hbelow
      have hself := hcached path.parts List.prefix_rfl
      unfold validatePrefix at hself
      rcases cachedNodes_cases nodes path.parts with
        ⟨_, -, ⟨-, h⟩ | ⟨hfile, -⟩⟩ | ⟨hnone, -⟩
      · rw [h, decide_eq_true rfl] at hself
        exact absurd hself nofun
      · exact not_prefix_concat (hfile ▸ hbelow)
      · exact (hnone name hname).1 hbelow
    · intro hbelow
      have hself := hcached _ hbelow
      unfold validatePrefix at hself
      rcases cachedNodes_cases nodes (caDirectory.parts ++ [name]) with
        ⟨_, -, ⟨hdir, -⟩ | ⟨-, h⟩⟩ | ⟨hnone, -⟩
      · exact absurd hdir not_prefix_concat
      · rw [h] at hself
        by_contra hne
        rw [decide_eq_false (Ne.symm hne)] at hself
        exact absurd hself nofun
      · exact absurd rfl (hnone name hname).2
  · intro hclear
    refine ⟨hstorable, fun p hp => ?_⟩
    unfold validatePrefix
    rcases cachedNodes_cases nodes p with ⟨name, hname, ⟨hdir, h⟩ | ⟨hfile, h⟩⟩ | ⟨-, h⟩
      <;> rw [h]
    · have hne : p ≠ path.parts := fun heq => (hclear name hname).1 (heq ▸ hdir)
      rw [decide_eq_false hne]
      rfl
    · have heq : p = path.parts := by
        rw [(hclear name hname).2 (hfile ▸ hp), hfile]
      rw [decide_eq_true heq]
      rfl
    · exact hnodes p hp

theorem caName_plain (pem : String) :
    caName pem ≠ ".." ∧ (caName pem).toList.any isControl = false := by
  have hdigest := ConfigEnv.digest_valid pem
  unfold Onboarding.validSha256 at hdigest
  rw [Bool.and_eq_true, decide_eq_true_eq] at hdigest
  obtain ⟨hlength, hhex⟩ := hdigest
  constructor
  · intro h
    have hsize := congrArg String.utf8ByteSize h
    unfold caName at hsize
    rw [String.utf8ByteSize_append, hlength] at hsize
    exact absurd hsize (by decide)
  · unfold caName
    rw [String.toList_append, List.any_append, Bool.or_eq_false_iff]
    refine ⟨List.any_eq_false.mpr fun c hc => ?_, by decide⟩
    have hone := List.all_eq_true.mp hhex c hc
    unfold isControl
    simp only [Bool.or_eq_true, Bool.and_eq_true, decide_eq_true_eq, Char.isDigit] at hone ⊢
    rcases hone with ⟨h0, h9⟩ | ⟨ha, hf⟩
    · have : 48 ≤ c.toNat ∧ c.toNat ≤ 57 := ⟨h0, h9⟩
      omega
    · have : 97 ≤ c.toNat ∧ c.toNat ≤ 102 := ⟨ha, hf⟩
      omega

/-- The certificates that were stored are where the stored routes expect them. -/
theorem cachedNodes_certificate
    (h : validateStoredPath nodes (caDirectory.join "certificate.pem") = .ok ())
    {route : OnboardingRoute} (hroute : route ∈ routes) {pem : String}
    (hpem : route.caPem = some pem) :
    validateStoredPath (cachedNodes nodes routes caDirectory)
      (caDirectory.join (caName pem)) = .ok () := by
  obtain ⟨⟨habsolute, hdots, -, hcontrol⟩, -⟩ := validateStoredPath_ok.mp h
  obtain ⟨hname, hprint⟩ := caName_plain pem
  have hmem : caName pem ∈ routes.filterMap fun route => route.caPem.map caName :=
    List.mem_filterMap.mpr ⟨route, hroute, by rw [hpem]; rfl⟩
  refine validateStoredPath_ok.mpr ⟨⟨habsolute, ?_, by simp [HostPath.join], ?_⟩, fun p hp => ?_⟩
  · intro hdot
    rcases List.mem_append.mp hdot with hdot | hdot
    · exact hdots (List.mem_append_left _ hdot)
    · exact hname (List.mem_singleton.mp hdot).symm
  · intro part hpart
    rcases List.mem_append.mp hpart with hpart | hpart
    · exact hcontrol part (List.mem_append_left _ hpart)
    · rw [List.mem_singleton.mp hpart]
      exact hprint
  · unfold validatePrefix
    rcases List.prefix_concat_iff.mp hp with rfl | hdir
    · rcases cachedNodes_cases nodes (caDirectory.parts ++ [caName pem]) with
        ⟨_, -, ⟨hdir, -⟩ | ⟨-, h⟩⟩ | ⟨hnone, -⟩
      · exact absurd hdir not_prefix_concat
      · rw [h]
        exact if_pos (decide_eq_true rfl)
      · exact absurd rfl (hnone _ hmem).2
    · have hne : p ≠ (caDirectory.join (caName pem)).parts := by
        rintro rfl
        exact not_prefix_concat hdir
      rcases cachedNodes_cases nodes p with ⟨_, -, ⟨-, h⟩ | ⟨hfile, -⟩⟩ | ⟨hnone, -⟩
      · rw [h, decide_eq_false hne]
        rfl
      · exact absurd (hfile ▸ hdir) not_prefix_concat
      · exact absurd hdir (hnone _ hmem).1

end cache

section bound

variable [UrlParser] [ConfigEnv] {nodes : Nodes} {config : ConfigFile} {ticket : OnboardingTicket}
  {provider : OnboardingProvider} {credentialFile : HostPath} {routerUrl : String}
  {routes : List StoredOnboardingRoute}

theorem validateConfig_ok : validateConfig nodes config = .ok () ↔
    (config.version = 1 ∨ config.version = configVersion) ∧ validateDefault config = .ok () ∧
      ∀ name profile, config.profiles.get? name = some profile →
        validateProfile nodes name profile = .ok () := by
  unfold validateConfig
  simp only [Except.bind_unit_ok, Except.require_ok, Bool.or_eq_true, decide_eq_true_eq,
    Except.forM_ok, Prod.forall, Table.mem_toList]

theorem validateProfile_ok {name : String} {profile : Profile} :
    validateProfile nodes name profile = .ok () ↔
      validateProfileName name = .ok () ∧ name ≠ defaultProfileName ∧
      (∃ url, normalizeRouterUrl profile.routerUrl = .ok url) ∧
      (profile.serverId.any Uuid.isNil = false ∧ (profile.serverId.isSome = true ∨
        profile.routes.isEmpty = true ∧ profile.bindings.toList.isEmpty = true)) ∧
      validateServerRoutes nodes profile = .ok () ∧
      ∀ key binding, profile.bindings.get? key = some binding →
        validateStoredPath nodes binding.credentialFile = .ok () := by
  unfold validateProfile
  simp only [Except.bind_unit_ok]
  rw [Except.bind_ok]
  simp only [Except.bind_unit_ok, Except.require_ok, decide_eq_true_eq, Bool.and_eq_true,
    Bool.not_eq_true', Bool.or_eq_true, Except.forM_ok, Prod.forall, Table.mem_toList,
    exists_and_right]

theorem ConfigFile.Stores.valid {path : HostPath} (h : config.Stores path)
    (hvalid : validateConfig nodes config = .ok ()) : validateStoredPath nodes path = .ok () := by
  obtain ⟨name, profile, hget, hstores⟩ := h
  obtain ⟨-, -, -, -, hserver, hbindings⟩ :=
    validateProfile_ok.mp ((validateConfig_ok.mp hvalid).2.2 name profile hget)
  rcases hstores with ⟨hid, route, hroute, hca⟩ | ⟨key, binding, hbinding, rfl⟩
  · unfold validateServerRoutes at hserver
    obtain ⟨id, hid⟩ := Option.isSome_iff_exists.mp hid
    rw [hid] at hserver
    obtain ⟨candidates, hcandidates, -⟩ := Except.bind_ok.mp (Except.bind_unit_ok.mp hserver).1
    obtain ⟨candidate, -, hcandidate⟩ :=
      (forall₂_exists (Except.mapM_ok.mp hcandidates)).1 route hroute
    obtain ⟨url, -, hcandidate⟩ := Except.bind_ok.mp hcandidate
    obtain ⟨hcaValid, -⟩ := Except.bind_unit_ok.mp hcandidate
    rw [hca] at hcaValid
    exact (Except.bind_unit_ok.mp hcaValid).2
  · exact hbindings key binding hbinding

variable [Onboarding.JournalEnv]

/-- A configuration stays valid when a valid binding is added. -/
theorem validateConfig_bound (hconfig : validateConfig nodes config = .ok ())
    (hticket : ticket.validate = true)
    (hcredential : validateStoredPath nodes credentialFile = .ok ())
    (hroutes : validateStoredRoutes nodes routes = .ok ())
    (hurl : ∃ url, normalizeRouterUrl routerUrl = .ok url)
    (hamong : (routes.any fun route => route.routerUrl = routerUrl) = true) :
    validateConfig nodes (bound config ticket provider credentialFile routerUrl routes) =
      .ok () := by
  obtain ⟨hversion, hdefault, hprofiles⟩ := validateConfig_ok.mp hconfig
  unfold Onboarding.OnboardingTicket.validate at hticket
  simp only [Bool.and_eq_true, Bool.not_eq_true', decide_eq_true_eq] at hticket
  refine validateConfig_ok.mpr ⟨hversion, ?_, fun name profile hget => ?_⟩
  · unfold validateDefault at hdefault ⊢
    have hsame : (bound config ticket provider credentialFile routerUrl routes).defaultProfile =
        config.defaultProfile := rfl
    rw [hsame]
    cases hname : config.defaultProfile with
    | none => rfl
    | some name =>
      rw [hname] at hdefault
      obtain ⟨hvalid, hknown⟩ := Except.bind_unit_ok.mp hdefault
      refine Except.bind_unit_ok.mpr ⟨hvalid, Except.require_ok.mpr ?_⟩
      have hknown := Except.require_ok.mp hknown
      unfold bound
      grind
  · have hput : (config.profiles.put ticket.profileName _).get? name = some profile := hget
    rw [Table.get?_put] at hput
    by_cases hname : name = ticket.profileName
    · rw [if_pos hname] at hput
      obtain rfl := Option.some.inj hput
      subst hname
      refine validateProfile_ok.mpr ⟨?_, ?_, hurl, ⟨?_, .inl rfl⟩, ?_, ?_⟩
      · exact Except.require_ok.mpr hticket.1.1.1.1.2
      · exact hticket.1.1.1.1.1.2
      · exact hticket.1.1.1.1.1.1.1.1.2
      · refine Except.bind_unit_ok.mpr ⟨hroutes, Except.require_ok.mpr ?_⟩
        obtain ⟨route, hroute, hsame⟩ := List.any_eq_true.mp hamong
        refine List.any_eq_true.mpr ⟨route, hroute, ?_⟩
        rw [of_decide_eq_true hsame]
        exact decide_eq_true rfl
      · intro key binding hbinding
        dsimp only at hbinding
        rw [Table.get?_put] at hbinding
        split at hbinding
        · obtain rfl := Option.some.inj hbinding
          exact hcredential
        · cases hold : config.profiles.get? ticket.profileName with
          | none =>
            rw [hold] at hbinding
            exact absurd hbinding (by simp [Profile.manual])
          | some old =>
            rw [hold] at hbinding
            exact (validateProfile_ok.mp (hprofiles _ old hold)).2.2.2.2.2 key binding hbinding
    · rw [if_neg hname] at hput
      exact hprofiles name profile hput

end bound

section publication

variable [UrlParser] [ConfigEnv]

/-- What a disk had to say it still says, or it fails with an error in `E`. -/
structure Disk.Follows (E : ConfigError → Prop) (before after : Disk) : Prop where
  content : before.content.Follows E after.content
  parent : before.parent.Follows E after.parent
  identity : before.identity.Follows E after.identity
  nodes : NodesFollow E before.nodes after.nodes
  writable : after.writable = false → E .io

/-- The disk with a configuration written to it. -/
def Disk.written (disk : Disk) (config : ConfigFile) : Disk :=
  { disk with content :=
      if configBytes config + 1 ≤ maxConfigBytes then .ok (some config) else .error .invalid }

/-- The binding was published and can be read again, or the disk or the size limit refused it. -/
def Published (disk : Disk) (result : Except ConfigError ConfigFile) : Prop :=
  result.Ends (fun config => loadConfig (disk.written config) = .ok config)
    fun e => e = .io ∨ e = .oversized

variable {E : ConfigError → Prop} {before disk : Disk} {config : ConfigFile}
  {ticket : OnboardingTicket} {provider : OnboardingProvider} {credentialFile : HostPath}

theorem loadConfig_ok : loadConfig disk = .ok config ↔
    disk.content = .ok none ∧ config = .fresh ∨
      disk.content = .ok (some config) ∧ validateConfig disk.nodes config = .ok () := by
  unfold loadConfig
  rw [Except.bind_ok]
  constructor
  · rintro ⟨content, hcontent, h⟩
    cases content with
    | none => exact .inl ⟨hcontent, (Except.ok.inj h).symm⟩
    | some found =>
      obtain ⟨hvalid, h⟩ := Except.bind_unit_ok.mp h
      obtain rfl := Except.ok.inj h
      exact .inr ⟨hcontent, hvalid⟩
  · rintro (⟨hcontent, rfl⟩ | ⟨hcontent, hvalid⟩)
    · exact ⟨none, hcontent, rfl⟩
    · exact ⟨some config, hcontent, Except.bind_unit_ok.mpr ⟨hvalid, rfl⟩⟩

theorem validateConfig_fresh (nodes : Nodes) : validateConfig nodes .fresh = .ok () := rfl

theorem loadConfig_valid (h : loadConfig disk = .ok config) :
    validateConfig disk.nodes config = .ok () := by
  rcases loadConfig_ok.mp h with ⟨-, rfl⟩ | ⟨-, hvalid⟩
  · exact validateConfig_fresh _
  · exact hvalid

theorem loadConfig_ends (hfollows : before.Follows E disk)
    (hload : loadConfig before = .ok config) : (loadConfig disk).Ends
      (fun found => found = config ∧ validateConfig disk.nodes config = .ok ()) E := by
  have hmoves : (loadConfig before).Follows E (loadConfig disk) :=
    .bind hfollows.content fun content => by
      cases content with
      | none => exact .refl _
      | some found => exact .bind (validateConfig_follows fun path _ =>
        validateStoredPath_follows hfollows.nodes path) fun _ => .refl _
  refine (hmoves config hload).imp_ok fun found hfound hsame => ⟨hsame, ?_⟩
  exact hsame ▸ loadConfig_valid hfound

variable [Onboarding.JournalEnv]

theorem checkOnboardingBinding_ok :
    checkOnboardingBinding disk ticket provider credentialFile = .ok () ↔
      ticket.validate = true ∧
      (ticket.provider.all fun expected => expected = provider) = true ∧
      validateStoredPath disk.nodes credentialFile = .ok () ∧
      ∃ config, loadConfig disk = .ok config ∧
        checkBinding config ticket provider credentialFile = .ok () ∧ disk.parent = .ok () ∧
        (∃ identity, disk.identity = .ok identity) ∧ disk.writable = true := by
  unfold checkOnboardingBinding
  simp only [Except.bind_unit_ok, Except.require_ok]
  rw [Except.bind_ok]
  simp only [Except.bind_unit_ok]
  simp only [Except.bind_ok, Except.require_ok, exists_and_right]

theorem checkOnboardingBinding_ends (hfollows : before.Follows E disk)
    (hcheck : checkOnboardingBinding before ticket provider credentialFile = .ok ())
    (hload : loadConfig before = .ok config) :
    (checkOnboardingBinding disk ticket provider credentialFile).Ends
      (fun _ => validateStoredPath disk.nodes credentialFile = .ok () ∧
        validateConfig disk.nodes config = .ok ()) E := by
  obtain ⟨hticket, hprovider, hpath, found, hfound, hbinding, hparent, ⟨identity, hidentity⟩, -⟩ :=
    checkOnboardingBinding_ok.mp hcheck
  obtain rfl := Except.ok.inj (hload.symm.trans hfound)
  unfold checkOnboardingBinding
  rw [Except.require_ok.mpr hticket, Except.require_ok.mpr hprovider]
  apply (validateStoredPath_follows hfollows.nodes credentialFile).bind_ends hpath
  intro hafter
  rw [Except.ends_bind]
  refine (loadConfig_ends hfollows hload).mono (fun current hcurrent => ?_) fun _ he => he
  obtain ⟨rfl, hvalid⟩ := hcurrent
  rw [hbinding]
  apply hfollows.parent.bind_ends hparent
  intro _
  apply hfollows.identity.bind_ends hidentity
  intro _
  rw [Except.ends_require]
  exact ⟨fun _ => ⟨hafter, hvalid⟩, hfollows.writable⟩

section stored

variable {persists : String → Bool} {caDirectory : HostPath} {nodes : Nodes}
  {routes : List StoredOnboardingRoute} {route : OnboardingRoute}

omit [Onboarding.JournalEnv] in
theorem storeOnboardingRoutes_ok :
    storeOnboardingRoutes disk persists ticket.routes caDirectory = .ok routes ↔
      validateRoutes ticket.routes = true ∧
      validateStoredPath disk.nodes (caDirectory.join "certificate.pem") = .ok () ∧
      ticket.routes.mapM (storeRoute persists caDirectory) = .ok routes := by
  unfold storeOnboardingRoutes
  simp only [Except.bind_unit_ok, Except.require_ok]

omit [Onboarding.JournalEnv] in
/-- The stored routes are the routes of the ticket. -/
theorem storeRoute_matches
    (hstore : ticket.routes.mapM (storeRoute persists caDirectory) = .ok routes) :
    routes.length = ticket.routes.length ∧ routes.all (matchesTicket ticket) = true ∧
      ∀ route ∈ ticket.routes, ∃ url, normalizeRouterUrl route.routerUrl = .ok url ∧
        (routes.any fun stored => stored.routerUrl = href url) = true := by
  have hpairs := Except.mapM_ok.mp hstore
  obtain ⟨hleft, hright⟩ := forall₂_exists hpairs
  refine ⟨hpairs.length_eq.symm, List.all_eq_true.mpr fun stored hstored => ?_,
    fun route hroute => ?_⟩
  · obtain ⟨route, hroute, hone⟩ := hright stored hstored
    obtain ⟨url, hurl, rfl⟩ := storeRoute_ok hone
    refine List.any_eq_true.mpr ⟨route, hroute, ?_⟩
    rw [hurl]
    simp
  · obtain ⟨stored, hstored, hone⟩ := hleft route hroute
    obtain ⟨url, hurl, rfl⟩ := storeRoute_ok hone
    exact ⟨url, hurl, List.any_eq_true.mpr ⟨_, hstored, decide_eq_true rfl⟩⟩

variable [UrlStandard]

/-- A publication that finds what the check found succeeds, or the disk or the size stops it. -/
theorem publishOnboardingBinding_ends (hfollows : before.Follows (· = .io) disk)
    (hcheck : checkOnboardingBinding before ticket provider credentialFile = .ok ())
    (hstore : ticket.routes.mapM (storeRoute persists caDirectory) = .ok routes)
    (hroutes : validateStoredRoutes before.nodes routes = .ok ())
    (hroute : route ∈ ticket.routes) :
    Published disk
      (publishOnboardingBinding disk ticket provider credentialFile route.routerUrl routes) := by
  have hmore : before.Follows (fun e => e = .io ∨ e = .oversized) disk :=
    ⟨hfollows.content.mono fun _ => .inl, hfollows.parent.mono fun _ => .inl,
      hfollows.identity.mono fun _ => .inl, fun path last => (hfollows.nodes path last).mono
        fun _ => .inl, fun _ => .inl rfl⟩
  obtain ⟨hticket, -, hpath, config, hload, hbinding, hparent, ⟨identity, hidentity⟩, -⟩ :=
    checkOnboardingBinding_ok.mp hcheck
  obtain ⟨hlength, hall, hurls⟩ := storeRoute_matches hstore
  obtain ⟨url, hurl, hamong⟩ := hurls route hroute
  unfold Published publishOnboardingBinding
  rw [Except.ends_bind]
  refine (checkOnboardingBinding_ends hmore hcheck hload).mono (fun _ hchecked => ?_) fun _ he => he
  obtain ⟨hcredential, hvalid⟩ := hchecked
  have hstoredRoutes : (validateStoredRoutes before.nodes routes).Follows _
      (validateStoredRoutes disk.nodes routes) :=
    validateStoredRoutes_follows fun _ _ path _ => validateStoredPath_follows hmore.nodes path
  unfold checkStoredRoutes
  rw [Except.ends_bind]
  apply hstoredRoutes.bind_ends hroutes
  intro hstored
  rw [hurl]
  show (Except.require _ _ >>= _).Ends _ _
  rw [Except.require_ok.mpr (by simp [hlength, hamong]), Except.require_ok.mpr hall]
  show (loadConfig disk >>= _).Ends _ _
  rw [Except.ends_bind]
  refine (loadConfig_ends hmore hload).mono (fun current hcurrent => ?_) fun _ he => he
  obtain ⟨rfl, -⟩ := hcurrent
  rw [hbinding]
  show (saveConfig _ _).Ends _ _
  have hbound : validateConfig disk.nodes
      (bound current ticket provider credentialFile (href url) routes) = .ok () :=
    validateConfig_bound hvalid hticket hcredential hstored
      ⟨url, (normalizeRouterUrl_href hurl).2⟩ hamong
  unfold saveConfig
  rw [hbound]
  apply hmore.parent.bind_ends hparent
  intro _
  apply hmore.identity.bind_ends hidentity
  intro _
  apply Except.ends_require_bind
  · exact fun _ => .inr rfl
  intro hsize
  apply Except.ends_require_bind
  · exact fun _ => .inl rfl
  intro _
  refine loadConfig_ok.mpr (.inr ⟨?_, ?_⟩)
  · exact if_pos (of_decide_eq_true hsize)
  · obtain ⟨-, hdefault, hprofiles⟩ := validateConfig_ok.mp hbound
    exact validateConfig_ok.mpr ⟨.inr rfl, hdefault, hprofiles⟩

/-- The file system after the certificates of a ticket were stored. -/
def Disk.cached (disk : Disk) (routes : List OnboardingRoute) (caDirectory : HostPath) : Disk :=
  { disk with nodes := cachedNodes disk.nodes routes caDirectory }

omit [UrlStandard] in
theorem checkOnboardingBinding_cached
    (hcheck : checkOnboardingBinding before ticket provider credentialFile = .ok ())
    (hload : loadConfig before = .ok config)
    (hclear : ∀ path, config.Stores path ∨ path = credentialFile →
      Clear ticket.routes caDirectory path) :
    checkOnboardingBinding (before.cached ticket.routes caDirectory) ticket provider
      credentialFile = .ok () := by
  obtain ⟨hticket, hprovider, hpath, found, hfound, hrest⟩ := checkOnboardingBinding_ok.mp hcheck
  obtain rfl := Except.ok.inj (hload.symm.trans hfound)
  refine checkOnboardingBinding_ok.mpr
    ⟨hticket, hprovider, (cachedNodes_clear hpath).mpr (hclear _ (.inr rfl)), config, ?_, hrest⟩
  rcases loadConfig_ok.mp hload with ⟨hcontent, rfl⟩ | ⟨hcontent, hvalid⟩
  · exact loadConfig_ok.mpr (.inl ⟨hcontent, rfl⟩)
  · refine loadConfig_ok.mpr (.inr ⟨hcontent, ?_⟩)
    have hfollows : (validateConfig before.nodes config).Follows (fun _ => False)
        (validateConfig (before.cached ticket.routes caDirectory).nodes config) :=
      validateConfig_follows fun path hstores _ hok =>
        .of_ok ((cachedNodes_clear hok).mpr (hclear path (.inl hstores))) rfl
    exact hfollows.ok hvalid

/-- A binding that was checked and whose routes were stored can be published after the exchange
exactly when all routes of the ticket name an authority and the cache of certificates leaves the
stored paths alone. -/
theorem publishes_iff (hload : loadConfig before = .ok config)
    (hcheck : checkOnboardingBinding before ticket provider credentialFile = .ok ())
    (hstore : storeOnboardingRoutes before persists ticket.routes caDirectory = .ok routes)
    (hroute : route ∈ ticket.routes) :
    (∀ disk, (before.cached ticket.routes caDirectory).Follows (· = .io) disk → Published disk
      (publishOnboardingBinding disk ticket provider credentialFile route.routerUrl routes)) ↔
    (∀ r ∈ ticket.routes, hasAuthority r.routerUrl = true) ∧
      ∀ path, config.Stores path ∨ path = credentialFile →
        Clear ticket.routes caDirectory path := by
  obtain ⟨hvalid, hdirectory, hstored⟩ := storeOnboardingRoutes_ok.mp hstore
  have hcertificates : ∀ route ∈ ticket.routes, ∀ pem, route.caPem = some pem →
      validateStoredPath (before.cached ticket.routes caDirectory).nodes
        (caDirectory.join (caName pem)) = .ok () :=
    fun route hroute pem hpem => cachedNodes_certificate hdirectory hroute hpem
  have hroutes := validateStoredRoutes_iff hvalid hstored hcertificates
  constructor
  · intro hpublishes
    obtain ⟨-, -, hpath, found, hfound, -⟩ := checkOnboardingBinding_ok.mp hcheck
    obtain rfl := Except.ok.inj (hload.symm.trans hfound)
    let disk : Disk := { before.cached ticket.routes caDirectory with writable := true }
    have hfollows : before.Follows (· = .invalid) disk :=
      ⟨.refl _, .refl _, .refl _, cachedNodes_follow, nofun⟩
    have hpublished := hpublishes disk
      ⟨.refl _, .refl _, .refl _, fun _ _ => .refl _, fun _ => rfl⟩
    have hrefused : ∀ e, e = ConfigError.invalid → ¬ (e = .io ∨ e = .oversized) := by
      rintro _ rfl (h | h)
      · exact absurd h nofun
      · exact absurd h nofun
    unfold Published publishOnboardingBinding at hpublished
    rw [Except.ends_bind] at hpublished
    have hboth := (checkOnboardingBinding_ends hfollows hcheck hload).and hpublished
    obtain ⟨⟨hcredential, hconfig⟩, hpublished⟩ := hboth.resolve fun e he => hrefused e he.1 he.2
    unfold checkStoredRoutes at hpublished
    rw [Except.ends_bind, Except.ends_bind] at hpublished
    have hauthority := (hroutes.and hpublished).resolve fun e he => hrefused e he.1.1 he.2
    refine ⟨hauthority.1, fun path hstores => ?_⟩
    rcases hstores with hstores | rfl
    · exact (cachedNodes_clear (hstores.valid (loadConfig_valid hload))).mp (hstores.valid hconfig)
    · exact (cachedNodes_clear hpath).mp hcredential
  · rintro ⟨hauthority, hclear⟩ disk hfollows
    have haccepted : validateStoredRoutes (before.cached ticket.routes caDirectory).nodes routes =
        .ok () := hroutes.ok_of fun e he => he.2 hauthority
    exact publishOnboardingBinding_ends hfollows
      (checkOnboardingBinding_cached hcheck hload hclear) hstored haccepted hroute

end stored

end publication

namespace Sample

/-- A few texts, as the parser of the standard reads them. -/
def readUrl : String → Option Url
  | "wss:1234/ws" | "wss://0.0.4.210/ws" => some (plainUrl "wss" (.ipv4 0 0 4 210) none)
  | "ws://wss:1234/ws" => some (plainUrl "ws" (.domain "wss") (some 1234))
  | "wss://10.0.0.2/ws" => some (plainUrl "wss" (.ipv4 10 0 0 2) none)
  | _ => none
where
  plainUrl (scheme : String) (host : Host) (port : Option ℕ) : Url :=
    { scheme, username := "", password := none, host := some host, port, path := "/ws",
      query := none, fragment := none }

def hostText : Option Host → String
  | some (.ipv4 a b c d) => s!"{a.val}.{b.val}.{c.val}.{d.val}"
  | some (.domain name) => name
  | _ => ""

def urlText (url : Url) : String :=
  url.scheme ++ "://" ++ hostText url.host ++
    (match url.port with | some port => s!":{port}" | none => "") ++ url.path

scoped instance parser : UrlParser where
  parse := readUrl
  href := urlText

theorem readUrl_cases {s : String} {u : Url} (h : readUrl s = some u) :
    (s = "wss:1234/ws" ∨ s = "wss://0.0.4.210/ws") ∧
      u = readUrl.plainUrl "wss" (.ipv4 0 0 4 210) none ∨
    s = "ws://wss:1234/ws" ∧ u = readUrl.plainUrl "ws" (.domain "wss") (some 1234) ∨
    s = "wss://10.0.0.2/ws" ∧ u = readUrl.plainUrl "wss" (.ipv4 10 0 0 2) none := by
  unfold readUrl at h
  split at h
  · exact .inl ⟨.inl rfl, (Option.some.inj h).symm⟩
  · exact .inl ⟨.inr rfl, (Option.some.inj h).symm⟩
  · exact .inr (.inl ⟨rfl, (Option.some.inj h).symm⟩)
  · exact .inr (.inr ⟨rfl, (Option.some.inj h).symm⟩)
  · exact absurd h nofun

scoped instance standard : UrlStandard where
  parse_href h _ path hpath := by
    rcases readUrl_cases h with ⟨-, rfl⟩ | ⟨-, rfl⟩ | ⟨-, rfl⟩ <;> rcases hpath with rfl | rfl <;>
      decide +kernel
  href_text h _ path hpath := by
    rcases readUrl_cases h with ⟨-, rfl⟩ | ⟨-, rfl⟩ | ⟨-, rfl⟩ <;> rcases hpath with rfl | rfl <;>
      decide +kernel
  parse_trim h _ _ _ := by
    rcases readUrl_cases h with ⟨rfl | rfl, rfl⟩ | ⟨rfl, rfl⟩ | ⟨rfl, rfl⟩ <;> decide +kernel
  parse_guess h _ hplain hguess := by
    rcases readUrl_cases h with ⟨rfl | rfl, rfl⟩ | ⟨rfl, rfl⟩ | ⟨rfl, rfl⟩
    · have hv : readUrl "ws://wss:1234/ws" = some _ := hguess
      obtain rfl := Option.some.inj hv
      exact ⟨rfl, fun _ => rfl⟩
    all_goals exact absurd hplain (by decide +kernel)

theorem digest_checked : Onboarding.validSha256 Onboarding.Sample.digest = true := by decide +kernel

scoped instance env : ConfigEnv where
  validCaPem _ := true
  digest _ := Onboarding.Sample.digest
  digest_valid _ := digest_checked
  configBytes _ := 512

scoped instance journalEnv : Onboarding.JournalEnv where
  validRoutes := validateRoutes
  enrollUrl _ := true
  stateBytes _ := 1161
  requestBytes _ := 368

/-- The first text is a URL in two ways. -/
def odd : OnboardingRoute := { kind := .public_, routerUrl := "wss:1234/ws", caPem := none }

def good : OnboardingRoute := { kind := .lan, routerUrl := "wss://10.0.0.2/ws", caPem := none }

def ticket : OnboardingTicket := { Onboarding.Sample.ticket with routes := [odd, good] }

def credentialFile : HostPath := ⟨true, ["state", "credential.json"]⟩

def caDirectory : HostPath := ⟨true, ["etc", "asr", "onboarding", "ca"]⟩

/-- No configuration yet, in a directory that can be written. -/
def disk : Disk where
  content := .ok none
  parent := .ok ()
  identity := .ok none
  writable := true
  nodes path :=
    if path = credentialFile.parts then .file else if path = [] then .directory else .missing

def stored : List StoredOnboardingRoute :=
  [{ kind := .public_, routerUrl := "ws://wss:1234/ws", caFile := none },
    { kind := .lan, routerUrl := "wss://10.0.0.2/ws", caFile := none }]

theorem binding_checked :
    checkOnboardingBinding disk ticket .codexCli credentialFile = .ok () ∧
      storeOnboardingRoutes disk (fun _ => true) ticket.routes caDirectory = .ok stored := by
  constructor
  · exact checkOnboardingBinding_ok.mpr ⟨by decide +kernel, rfl, by decide +kernel, .fresh, rfl,
      rfl, rfl, ⟨none, rfl⟩, rfl⟩
  · decide +kernel

theorem good_mem : good ∈ ticket.routes := List.mem_cons_of_mem _ List.mem_cons_self

end Sample

open Sample in
/-- The binding passes every check before the exchange and is refused after it. -/
theorem publish_refused :
    checkOnboardingBinding disk ticket .codexCli credentialFile = .ok () ∧
      storeOnboardingRoutes disk (fun _ => true) ticket.routes caDirectory = .ok stored ∧
      publishOnboardingBinding disk ticket .codexCli credentialFile good.routerUrl stored =
        .error .invalid := by
  obtain ⟨hcheck, hstore⟩ := binding_checked
  have hroutes : validateStoredRoutes disk.nodes stored = .error .invalid := by decide +kernel
  have hstored : checkStoredRoutes disk.nodes ticket good.routerUrl stored = .error .invalid :=
    Except.bind_of_error hroutes
  exact ⟨hcheck, hstore, (Except.bind_of_ok hcheck).trans (Except.bind_of_error hstored)⟩

open Sample in
theorem publishes_iff_odd :
    (∀ later, (disk.cached ticket.routes caDirectory).Follows (· = .io) later → Published later
      (publishOnboardingBinding later ticket .codexCli credentialFile good.routerUrl stored)) ↔
    (∀ r ∈ ticket.routes, hasAuthority r.routerUrl = true) ∧
      ∀ path, ConfigFile.fresh.Stores path ∨ path = credentialFile →
        Clear ticket.routes caDirectory path :=
  publishes_iff (loadConfig_ok.mpr (.inl ⟨rfl, rfl⟩)) binding_checked.1 binding_checked.2 good_mem

end SessionRouter.Config
