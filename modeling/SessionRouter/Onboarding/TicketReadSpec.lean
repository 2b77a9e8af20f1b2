import SessionRouter.Onboarding.TicketRead

/-!
The installer reads a prompt's ticket back, unless the line end makes its JSON too long.
-/

namespace SessionRouter.Onboarding

open JsonValue (fieldsOf field optionalField integer)

theorem kind_read (kind : RouteKind) : RouteKind.fromJson (.str kind.name) = some kind := by
  cases kind <;> decide +kernel

theorem provider_read (provider : OnboardingProvider) :
    OnboardingProvider.fromJson (.str (providerName provider)) = some provider := by
  cases provider <;> decide +kernel

theorem workspace_read (workspace : WorkspaceName) :
    workspaceFromJson (.str workspace.asStr) = some workspace :=
  dif_pos workspace.valid

theorem integer_read {bound n : ℕ} (h : n < bound) : JsonValue.integer bound (.num n) = some n :=
  if_pos h

theorem route_read (route : OnboardingRoute) :
    OnboardingRoute.fromJson route.toJson = some route := by
  obtain ⟨kind, routerUrl, caPem⟩ := route
  unfold OnboardingRoute.fromJson OnboardingRoute.toJson
  cases caPem with
  | none =>
    rw [@JsonValue.fieldsOf_obj _ ["kind", "routerUrl"] _ rfl (by decide) (by decide)]
    change (RouteKind.fromJson (.str kind.name)).bind _ = _
    rw [kind_read]
    rfl
  | some pem =>
    rw [@JsonValue.fieldsOf_obj _ ["kind", "routerUrl", "caPem"] _ rfl (by decide) (by decide)]
    change (RouteKind.fromJson (.str kind.name)).bind _ = _
    rw [kind_read]
    rfl

theorem artifact_read {artifact : BootstrapArtifact} (h : validArtifact artifact = true) :
    BootstrapArtifact.fromJson artifact.toJson = some artifact := by
  simp only [validArtifact, Bool.and_eq_true, decide_eq_true_eq] at h
  have hmax : maxArtifactBytes < 2 ^ 64 := by decide
  have hbinary : artifact.binaryBytes < 2 ^ 64 := by omega
  have harchive : artifact.archiveBytes < 2 ^ 64 := by omega
  obtain ⟨target, binaryFile, binarySha256, archiveFile, archiveSha256, binaryBytes,
    archiveBytes⟩ := artifact
  unfold BootstrapArtifact.fromJson BootstrapArtifact.toJson
  rw [@JsonValue.fieldsOf_obj _ ["target", "binaryFile", "binarySha256", "archiveFile",
    "archiveSha256", "binaryBytes", "archiveBytes"] _ rfl (by decide) (by decide)]
  change (JsonValue.integer (2 ^ 64) (.num binaryBytes)).bind _ = _
  rw [integer_read hbinary]
  change (JsonValue.integer (2 ^ 64) (.num archiveBytes)).bind _ = _
  rw [integer_read harchive]
  rfl

theorem routes_read (routes : List OnboardingRoute) :
    (routes.map OnboardingRoute.toJson).mapM OnboardingRoute.fromJson = some routes :=
  JsonValue.mapM_map fun route _ => route_read route

theorem artifacts_read {artifacts : List BootstrapArtifact} (h : validArtifacts artifacts = true) :
    (artifacts.map BootstrapArtifact.toJson).mapM BootstrapArtifact.fromJson = some artifacts := by
  simp only [validArtifacts, Bool.and_eq_true, List.all_eq_true] at h
  exact JsonValue.mapM_map fun artifact hmem => artifact_read (h.1.2 artifact hmem)

/-- What is found under each name. -/
theorem ticket_fields (t : OnboardingTicket) : ∃ fields,
    fieldsOf ["version", "serverId", "inviteId", "inviteToken", "expiresAt", "profileName",
      "workspace", "provider", "routes", "manifestSha256", "artifacts"] t.toJson = some fields ∧
    field fields "version" = some (.num t.version) ∧
    field fields "serverId" = some (.str t.serverId.toText) ∧
    field fields "inviteId" = some (.str t.inviteId.toText) ∧
    field fields "inviteToken" = some (.str t.inviteToken) ∧
    field fields "expiresAt" = some (.num t.expiresAt.toNat) ∧
    field fields "profileName" = some (.str t.profileName) ∧
    field fields "workspace" = some (.str t.workspace.asStr) ∧
    optionalField fields "provider" OnboardingProvider.fromJson = some t.provider ∧
    field fields "routes" = some (.arr (t.routes.map OnboardingRoute.toJson)) ∧
    field fields "manifestSha256" = some (.str t.manifestSha256) ∧
    field fields "artifacts" = some (.arr (t.artifacts.map BootstrapArtifact.toJson)) := by
  unfold OnboardingTicket.toJson
  cases t.provider with
  | none =>
    exact ⟨_, @JsonValue.fieldsOf_obj _ ["version", "serverId", "inviteId", "inviteToken",
      "expiresAt", "profileName", "workspace", "routes", "manifestSha256", "artifacts"] _ rfl
      (by decide) (by decide), rfl, rfl, rfl, rfl, rfl, rfl, rfl, rfl, rfl, rfl, rfl⟩
  | some provider =>
    have hprovider : (OnboardingProvider.fromJson (.str (providerName provider))).map some =
        some (some provider) := by
      rw [provider_read, Option.map_some]
    exact ⟨_, @JsonValue.fieldsOf_obj _ ["version", "serverId", "inviteId", "inviteToken",
      "expiresAt", "profileName", "workspace", "provider", "routes", "manifestSha256",
      "artifacts"] _ rfl (by decide) (by decide), rfl, rfl, rfl, rfl, rfl, rfl, rfl, hprovider,
      rfl, rfl, rfl⟩

theorem byteLen_line (t : OnboardingTicket) :
    JsonValue.byteLen (t.toJson.encode ++ ['\n']) = t.toJson.encodedLen + 1 := by
  rw [JsonValue.byteLen_append]
  rfl

section

variable [TicketReader] [JournalEnv] {t : OnboardingTicket}

theorem ticket_read (hvalid : t.validate = true) (hexpiry : t.expiresAt < 2 ^ 63)
    (hserver : TicketReader.uuid t.serverId.toText = some t.serverId)
    (hinvite : TicketReader.uuid t.inviteId.toText = some t.inviteId) :
    OnboardingTicket.fromJson t.toJson = some t := by
  have hartifacts : validArtifacts t.artifacts = true := by
    simp only [OnboardingTicket.validate, Bool.and_eq_true] at hvalid
    exact hvalid.2
  simp only [OnboardingTicket.validate, Bool.and_eq_true, decide_eq_true_eq] at hvalid
  have hpositive : 0 < t.expiresAt := hvalid.1.1.1.1.1.1.2
  have hversion : t.version < 2 ^ 8 := by
    rw [hvalid.1.1.1.1.1.1.1.1.1]
    decide
  have hnat : t.expiresAt.toNat < 2 ^ 63 := by omega
  have hround : ((t.expiresAt.toNat : ℕ) : ℤ) = t.expiresAt := by omega
  obtain ⟨fields, hfields, h₁, h₂, h₃, h₄, h₅, h₆, h₇, h₈, h₉, h₁₀, h₁₁⟩ := ticket_fields t
  have g₁ : (field fields "version").bind (integer (2 ^ 8)) = some t.version := by
    rw [h₁]
    exact integer_read hversion
  have g₂ : (field fields "serverId").bind uuidFromJson = some t.serverId := by
    rw [h₂]
    exact hserver
  have g₃ : (field fields "inviteId").bind uuidFromJson = some t.inviteId := by
    rw [h₃]
    exact hinvite
  have g₄ : (field fields "inviteToken").bind JsonValue.string = some t.inviteToken := by
    rw [h₄]
    rfl
  have g₅ : (field fields "expiresAt").bind (integer (2 ^ 63)) = some t.expiresAt.toNat := by
    rw [h₅]
    exact integer_read hnat
  have g₆ : (field fields "profileName").bind JsonValue.string = some t.profileName := by
    rw [h₆]
    rfl
  have g₇ : (field fields "workspace").bind workspaceFromJson = some t.workspace := by
    rw [h₇]
    exact workspace_read t.workspace
  have g₉ : ((field fields "routes").bind JsonValue.array).bind
      (List.mapM OnboardingRoute.fromJson) = some t.routes := by
    rw [h₉]
    exact routes_read t.routes
  have g₁₀ : (field fields "manifestSha256").bind JsonValue.string = some t.manifestSha256 := by
    rw [h₁₀]
    rfl
  have g₁₁ : ((field fields "artifacts").bind JsonValue.array).bind
      (List.mapM BootstrapArtifact.fromJson) = some t.artifacts := by
    rw [h₁₁]
    exact artifacts_read hartifacts
  rw [OnboardingTicket.fromJson, Option.bind_of_some hfields, Option.bind_of_some g₁,
    Option.bind_of_some g₂, Option.bind_of_some g₃, Option.bind_of_some g₄, Option.bind_of_some g₅,
    Option.bind_of_some g₆, Option.bind_of_some g₇, Option.bind_of_some h₈, Option.bind_of_some g₉,
    Option.bind_of_some g₁₀, Option.bind_of_some g₁₁, hround]

theorem installTicket_long (h : maxTicketBytes ≤ t.toJson.encodedLen) :
    installTicket (t.toJson.encode ++ ['\n']) = none := by
  have hlen := byteLen_line t
  rw [installTicket, readBounded, if_pos (by omega), Option.bind_none]

/-- The installer reads a ticket of its JSON and a line end, unless there are too many bytes. -/
theorem installTicket_line (hvalid : t.validate = true) (hexpiry : t.expiresAt < 2 ^ 63)
    (hserver : TicketReader.uuid t.serverId.toText = some t.serverId)
    (hinvite : TicketReader.uuid t.inviteId.toText = some t.inviteId)
    (hjson : TicketReader.json (t.toJson.encode ++ ['\n']) = some t.toJson) :
    installTicket (t.toJson.encode ++ ['\n']) =
      if t.toJson.encodedLen < maxTicketBytes then some t else none := by
  by_cases h : t.toJson.encodedLen < maxTicketBytes
  · have hlen := byteLen_line t
    rw [installTicket, readBounded, if_neg (by omega), Option.bind_some, OnboardingTicket.parse,
      if_neg (by omega), hjson, Option.bind_some, ticket_read hvalid hexpiry hserver hinvite,
      Option.filter_some, if_pos hvalid, if_pos h]
  · rw [if_neg h]
    exact installTicket_long (not_lt.mp h)

end

/-- The installer reads the ticket back, and its JSON is the line that was read. -/
def ReadBack [TicketReader] [JournalEnv] (t : OnboardingTicket) (input : List Char) : Prop :=
  installTicket input = some t ∧
    ∀ parsed, installTicket input = some parsed → parsed.toJson.encode ++ ['\n'] = input

theorem hereDocuments_script (t : OnboardingTicket) (routes : List (String × String)) :
    ShellText.hereDocuments ((scriptOf t routes).map (@ShellSymbol.char PromptSlot)) =
      some [(t.toJson.encode ++ ['\n']).map .char] := by
  have hlines := template_checked.2.2.2.2.2
  rw [ShellText.hereDocuments, scriptOf_read, Option.map_some, ShellText.documentLines_fill, hlines]
  simp [ShellText.documentText, ShellText.fillSymbol, filling]

section

variable [UrlParser] [Config.ConfigEnv] [JournalEnv] [PemRoots] [UrlText] [TicketChecks]
  {t : OnboardingTicket} {text : List Char}

/-- The script in a prompt is a here-document, and so is the ticket in the script. -/
theorem renderPrompt_feeds (h : renderPrompt t = some text) : ∃ before script after,
    text = before ++ blockOf script ++ after ∧
      ShellText.hereDocuments ((blockOf script).map (@ShellSymbol.char PromptSlot)) =
        some [script.map .char] ∧
      ShellText.hereDocuments (script.map (@ShellSymbol.char PromptSlot)) =
        some [(t.toJson.encode ++ ['\n']).map .char] := by
  obtain ⟨hvalid, -, routes, after, hroutes, htext⟩ := renderPrompt_cases h
  obtain ⟨lines, hread, hlines⟩ := block_read (script_scan hvalid hroutes)
  refine ⟨promptHead t ++ "```sh\n".toList, scriptOf t routes, "```\n".toList ++ after, ?_, ?_,
    hereDocuments_script t routes⟩
  · rw [htext, List.append_assoc _ _ after]
  · rw [ShellText.hereDocuments, hread, Option.map_some, List.filterMap_append, ← hlines]
    rfl

/-- What a prompt feeds to the installer is read back as the ticket, unless the line end makes it
longer than the installer reads. -/
theorem renderPrompt_readBack [TicketReader] (hexpiry : t.expiresAt < 2 ^ 63)
    (hserver : TicketReader.uuid t.serverId.toText = some t.serverId)
    (hinvite : TicketReader.uuid t.inviteId.toText = some t.inviteId)
    (hjson : TicketReader.json (t.toJson.encode ++ ['\n']) = some t.toJson)
    (h : renderPrompt t = some text) : ∃ before script after input,
      text = before ++ blockOf script ++ after ∧
        ShellText.hereDocuments ((blockOf script).map (@ShellSymbol.char PromptSlot)) =
          some [script.map .char] ∧
        ShellText.hereDocuments (script.map (@ShellSymbol.char PromptSlot)) =
          some [input.map .char] ∧
        (ReadBack t input ↔ t.toJson.encodedLen < maxTicketBytes) := by
  obtain ⟨before, script, after, htext, hblock, hscript⟩ := renderPrompt_feeds h
  have hread := installTicket_line (renderPrompt_cases h).1 hexpiry hserver hinvite hjson
  refine ⟨before, script, after, _, htext, hblock, hscript, ?_⟩
  unfold ReadBack
  rw [hread]
  constructor
  · intro hback
    by_contra hlong
    rw [if_neg hlong] at hback
    cases hback.1
  · intro hshort
    rw [if_pos hshort]
    refine ⟨rfl, fun parsed hparsed => ?_⟩
    rw [Option.some.inj hparsed]

end

namespace TicketSample

open Config.Sample (readUrl urlText readUrl_cases good)

/-- Blanks around a URL are left out. -/
def trimBlanks (cs : List Char) : List Char :=
  ((cs.dropWhile (· = ' ')).reverse.dropWhile (· = ' ')).reverse

scoped instance parser : UrlParser where
  parse text := readUrl (String.ofList (trimBlanks text.toList))
  href := urlText

scoped instance env : Config.ConfigEnv := PromptSample.env

scoped instance roots : PemRoots := PromptSample.roots

scoped instance journalEnv : JournalEnv where
  validRoutes := Config.validateRoutes
  enrollUrl _ := true
  stateBytes _ := 1161
  requestBytes _ := 368

scoped instance checks : TicketChecks where
  routes _ := rfl
  caPem _ := rfl

scoped instance hrefText : UrlText where
  href_whole h := PromptSample.urlText.href_whole h

/-- A route whose URL is followed by blanks. -/
def paddedRoute (blanks : ℕ) : OnboardingRoute :=
  { good with routerUrl := String.ofList (good.routerUrl.toList ++ List.replicate blanks ' ') }

def padded (blanks : ℕ) : OnboardingTicket :=
  { Sample.ticket with routes := [paddedRoute blanks] }

theorem trimBlanks_padded (n : ℕ) :
    trimBlanks (good.routerUrl.toList ++ List.replicate n ' ') = good.routerUrl.toList := by
  have hfront : (good.routerUrl.toList ++ List.replicate n ' ').dropWhile (· = ' ') =
      good.routerUrl.toList ++ List.replicate n ' ' := rfl
  have hback : ∀ cs : List Char, (List.replicate n ' ' ++ cs).dropWhile (· = ' ') =
      cs.dropWhile (· = ' ') := by
    intro cs
    induction n with
    | zero => rfl
    | succ n ih => exact ih rfl
  rw [trimBlanks, hfront, List.reverse_append, List.reverse_replicate, hback]
  rfl

theorem parse_padded (n : ℕ) :
    parse (String.ofList (good.routerUrl.toList ++ List.replicate n ' ')) =
      readUrl good.routerUrl := by
  change readUrl (String.ofList (trimBlanks (String.ofList _).toList)) = _
  rw [String.toList_ofList, trimBlanks_padded, String.ofList_toList]

theorem encodeString_blanks (cs : List Char) (n : ℕ) :
    JsonValue.byteLen (JsonValue.encodeString (String.ofList (cs ++ List.replicate n ' '))) =
      JsonValue.byteLen (JsonValue.encodeString (String.ofList cs)) + n := by
  have hblanks : JsonValue.byteLen ((List.replicate n ' ').flatMap JsonValue.escapeChar) = n := by
    induction n with
    | zero => rfl
    | succ n ih =>
      rw [List.replicate_succ, List.flatMap_cons, JsonValue.byteLen_append, ih]
      change 1 + n = n + 1
      omega
  simp only [JsonValue.encodeString, String.toList_ofList, List.flatMap_append, List.cons_append,
    JsonValue.byteLen_cons, JsonValue.byteLen_append, hblanks]
  omega

/-- The ticket apart from its routes. -/
def fixedFields : List (String × JsonValue) :=
  [("version", .num 1), ("serverId", .str Sample.ticket.serverId.toText),
    ("inviteId", .str Sample.ticket.inviteId.toText),
    ("inviteToken", .str Sample.ticket.inviteToken), ("expiresAt", .num 1),
    ("profileName", .str Sample.ticket.profileName),
    ("workspace", .str Sample.ticket.workspace.asStr)]

theorem padded_json (n : ℕ) : (padded n).toJson = .obj (fixedFields ++ ("routes",
    .arr [.obj ([("kind", .str good.kind.name)] ++ ("routerUrl",
      .str (String.ofList (good.routerUrl.toList ++ List.replicate n ' '))) :: [])]) ::
    [("manifestSha256", .str Sample.ticket.manifestSha256),
      ("artifacts", .arr (Sample.ticket.artifacts.map BootstrapArtifact.toJson))]) := rfl

theorem padded_len (n : ℕ) :
    (padded n).toJson.encodedLen = (padded 0).toJson.encodedLen + n := by
  obtain ⟨k, hroute⟩ := JsonValue.encodedLen_at [("kind", .str good.kind.name)] "routerUrl" []
  obtain ⟨k', hticket⟩ := JsonValue.encodedLen_at fixedFields "routes"
    [("manifestSha256", .str Sample.ticket.manifestSha256),
      ("artifacts", .arr (Sample.ticket.artifacts.map BootstrapArtifact.toJson))]
  have harray : ∀ v : JsonValue, (JsonValue.arr [v]).encodedLen = 2 + v.encodedLen := by
    intro v
    have hopen : '['.utf8Size = 1 := rfl
    have hclose : ']'.utf8Size = 1 := rfl
    simp only [JsonValue.encodedLen, JsonValue.encode, JsonValue.encodeItems, List.cons_append,
      JsonValue.byteLen_cons, JsonValue.byteLen_append, hopen, hclose]
    change 1 + (_ + 1) = _
    omega
  have h := encodeString_blanks good.routerUrl.toList n
  have h₀ := encodeString_blanks good.routerUrl.toList 0
  rw [padded_json, padded_json, hticket, hticket, harray, harray, hroute, hroute]
  change k' + (2 + (k + JsonValue.byteLen (JsonValue.encodeString _))) =
    k' + (2 + (k + JsonValue.byteLen (JsonValue.encodeString _))) + n
  omega

theorem parse_padded_good (n : ℕ) :
    parse (paddedRoute n).routerUrl = parse good.routerUrl :=
  (parse_padded n).trans (parse_padded 0).symm

theorem padded_routes (n : ℕ) :
    routeSlots (padded n) = some [("https://10.0.0.2/onboarding/files/", "")] := by
  have hurl : filesUrl (paddedRoute n) = filesUrl good := by
    unfold filesUrl onboardingUrl
    rw [parse_padded_good]
  have hgood : filesUrl good = some "https://10.0.0.2/onboarding/files/" := by decide +kernel
  change [paddedRoute n].mapM (fun route =>
    (filesUrl route).map fun url => (url, route.caPem.getD "")) = _
  rw [List.mapM_cons, hurl, hgood]
  rfl

theorem padded_valid (n : ℕ) : (padded n).validate = true := by
  have hroute : Config.validRoute (paddedRoute n) = Config.validRoute good := by
    unfold Config.validRoute
    rw [parse_padded_good]
    rfl
  have hroutes : Config.validateRoutes [paddedRoute n] = Config.validateRoutes [good] := by
    simp only [Config.validateRoutes, List.all_cons, hroute]
    rfl
  have hfixed : OnboardingTicket.validate { Sample.ticket with routes := [good] } = true := by
    decide +kernel
  unfold OnboardingTicket.validate at hfixed ⊢
  change (_ && Config.validateRoutes [paddedRoute n] && _) = true
  rw [hroutes]
  exact hfixed

/-- The reader of JSON knows the text of a single ticket, the one of identifiers its two. -/
scoped instance reader : TicketReader where
  json text :=
    if text = PromptSample.ticket.toJson.encode ++ ['\n'] then some PromptSample.ticket.toJson
    else none
  uuid text := [Sample.ticket.serverId, Sample.ticket.inviteId].find? fun id => id.toText = text

end TicketSample

open scoped TicketSample in
theorem renderPrompt_readBack_sample : ∃ text before script after input,
    renderPrompt PromptSample.ticket = some text ∧
      text = before ++ blockOf script ++ after ∧ ReadBack PromptSample.ticket input := by
  have hlen : PromptSample.ticket.toJson.encodedLen < maxTicketBytes := by decide +kernel
  have hroutes : routeSlots PromptSample.ticket =
      some [("https://10.0.0.2/onboarding/files/", PromptSample.certificate),
        ("https://0.0.4.210/onboarding/files/", "")] := by
    decide +kernel
  obtain ⟨text, htext⟩ := renderPrompt_of_routes (by decide +kernel) hlen.le hroutes
  obtain ⟨before, script, after, input, hparts, -, -, hread⟩ := renderPrompt_readBack
    (by decide) (by decide +kernel) (by decide +kernel) (if_pos rfl) htext
  exact ⟨text, before, script, after, input, htext, hparts, hread.mpr hlen⟩

open scoped TicketSample in
/-- A prompt whose ticket the installer refuses: its JSON is as long as it may be, and the line end
is read with it. -/
theorem renderPrompt_tooLong : ∃ text before script after input,
    renderPrompt (TicketSample.padded 130346) = some text ∧
      text = before ++ blockOf script ++ after ∧
      ShellText.hereDocuments ((blockOf script).map (@ShellSymbol.char PromptSlot)) =
        some [script.map .char] ∧
      ShellText.hereDocuments (script.map (@ShellSymbol.char PromptSlot)) =
        some [input.map .char] ∧
      ¬ReadBack (TicketSample.padded 130346) input := by
  have hlen : (TicketSample.padded 130346).toJson.encodedLen = maxTicketBytes := by
    rw [TicketSample.padded_len]
    decide +kernel
  obtain ⟨text, htext⟩ := renderPrompt_of_routes (TicketSample.padded_valid 130346) hlen.le
    (TicketSample.padded_routes 130346)
  obtain ⟨before, script, after, hparts, hblock, hscript⟩ := renderPrompt_feeds htext
  refine ⟨text, before, script, after, _, htext, hparts, hblock, hscript, fun hback => ?_⟩
  have hnone := installTicket_long hlen.ge
  rw [hback.1] at hnone
  cases hnone

end SessionRouter.Onboarding
