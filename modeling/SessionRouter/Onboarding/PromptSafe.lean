import SessionRouter.Onboarding.PromptSpec
import SessionRouter.Config.Publishable

/-!
Whatever a ticket holds, its prompt is the template: no value ends the script or leaves its
quotation marks.
-/

namespace SessionRouter.Onboarding

open Config (validateRoutes validRoute validRouteUrl validCaPem)

/-- A character that ends no line is in one of the lines. -/
theorem mem_linesFrom {c : Char} (hn : c ≠ '\n') (hr : c ≠ '\r') (line text : List Char)
    (h : c ∈ line ∨ c ∈ text) : ∃ l ∈ linesFrom line text, c ∈ l := by
  induction line, text using linesFrom.induct with
  | case1 => simp at h
  | case2 line hne =>
    refine ⟨line.reverse, ?_, by simpa using h⟩
    cases line with
    | nil => simp at h
    | cons d line => simp [linesFrom]
  | case3 line text ih =>
    rw [linesFrom]
    rcases h with hline | htext
    · have hmem : c ∈ line := (List.mem_cons.mp hline).resolve_left hr
      exact ⟨line.reverse, List.mem_cons_self, List.mem_reverse.mpr hmem⟩
    · have hmem : c ∈ text := (List.mem_cons.mp htext).resolve_left hn
      obtain ⟨l, hl, hc⟩ := ih (.inr hmem)
      exact ⟨l, List.mem_cons_of_mem _ hl, hc⟩
  | case4 line text hnot ih =>
    rw [linesFrom]
    · rcases h with hline | htext
      · exact ⟨line.reverse, List.mem_cons_self, List.mem_reverse.mpr hline⟩
      · have hmem : c ∈ text := (List.mem_cons.mp htext).resolve_left hn
        obtain ⟨l, hl, hc⟩ := ih (.inr hmem)
        exact ⟨l, List.mem_cons_of_mem _ hl, hc⟩
    · exact hnot
  | case5 line d text hnot hchar ih =>
    rw [linesFrom]
    · apply ih
      rcases h with hline | htext
      · exact .inl (List.mem_cons_of_mem _ hline)
      · rcases List.mem_cons.mp htext with rfl | hmem
        · exact .inl List.mem_cons_self
        · exact .inr hmem
    · exact hchar
    · exact hnot

/-- A line of a certificate has no character of the lines that end the script. -/
theorem caLine_plain {c : Char} (hc : c = '_' ∨ c = '\x60') {active next : Bool} {line : List Char}
    (h : caLine active line = some next) : c ∉ line := by
  have hbegin : c ∉ "-----BEGIN CERTIFICATE-----".toList := by
    rcases hc with rfl | rfl <;> decide
  have hend : c ∉ "-----END CERTIFICATE-----".toList := by
    rcases hc with rfl | rfl <;> decide
  have hspace : isWhitespace c = false := by
    rcases hc with rfl | rfl <;> decide
  have hbase : isBase64Char c = false := by
    rcases hc with rfl | rfl <;> decide
  unfold caLine at h
  split_ifs at h with h₁ h₂ h₃ h₄
  · simp only [Bool.and_eq_true, decide_eq_true_eq] at h₁
    exact h₁.1 ▸ hbegin
  · simp only [Bool.and_eq_true, decide_eq_true_eq] at h₂
    exact h₂.1 ▸ hend
  · intro hmem
    simp only [Bool.and_eq_true, List.all_eq_true] at h₃
    rw [h₃.2 c hmem] at hspace
    cases hspace
  · intro hmem
    simp only [Bool.and_eq_true, List.all_eq_true] at h₄
    rw [h₄.2 c hmem] at hbase
    cases hbase

theorem caLines_plain {c : Char} (hc : c = '_' ∨ c = '\x60') {active next : Bool}
    {text : List (List Char)} (h : text.foldlM caLine active = some next) :
    ∀ line ∈ text, c ∉ line := by
  induction text generalizing active with
  | nil => exact fun _ hmem => absurd hmem List.not_mem_nil
  | cons line text ih =>
    rw [List.foldlM_cons] at h
    obtain ⟨middle, hline, hrest⟩ := Option.bind_eq_some_iff.mp h
    exact List.forall_mem_cons.mpr ⟨caLine_plain hc hline, ih hrest⟩

/-- A text of certificates can end neither the script nor the block around it. -/
theorem validateCaPem_guarded [PemRoots] {pem : String} (h : validateCaPem pem = true) :
    ShellText.Guarded scriptEnds pem.toList := by
  simp only [validateCaPem, Bool.and_eq_true, decide_eq_true_eq] at h
  have hplain : ∀ c : Char, c = '_' ∨ c = '\x60' → c ∉ pem.toList := by
    intro c hc hmem
    have hn : c ≠ '\n' := by rcases hc with rfl | rfl <;> decide
    have hr : c ≠ '\r' := by rcases hc with rfl | rfl <;> decide
    obtain ⟨line, hline, hin⟩ := mem_linesFrom hn hr [] pem.toList (.inr hmem)
    exact caLines_plain hc h.1.2 line hline hin
  intro _ e he
  simp only [scriptEnds, List.mem_cons, List.not_mem_nil, or_false] at he
  rcases he with rfl | rfl
  · exact ⟨'_', by decide, hplain _ (.inl rfl), by decide, by decide⟩
  · exact ⟨'\x60', by decide, hplain _ (.inr rfl), by decide, by decide⟩

theorem guarded_of_whole {text : List Char} (h : '\n' ∉ text) :
    ShellText.Guarded scriptEnds text := fun hmem => absurd hmem h

/-- What the URL standard says about the text of a URL whose scheme and path were replaced. -/
class UrlText [UrlParser] : Prop where
  /-- A serialised URL is one line. -/
  href_whole : ∀ {text url}, parse text = some url → url.isSocket = true →
    ∀ scheme ∈ ["http", "https"],
      '\n' ∉ (href { withScheme url scheme with path := "/onboarding/files/" }).toList

/-- The checks of routes and certificates are those of the configuration. -/
class TicketChecks [UrlParser] [Config.ConfigEnv] [JournalEnv] [PemRoots] : Prop where
  routes : ∀ routes, JournalEnv.validRoutes routes = validateRoutes routes
  caPem : ∀ pem, validCaPem pem = validateCaPem pem

section

variable {t : OnboardingTicket}

theorem mapM_mem {α β : Type} {f : α → Option β} {l : List α} {bs : List β}
    (h : l.mapM f = some bs) : ∀ b ∈ bs, ∃ a ∈ l, f a = some b := by
  induction l generalizing bs with
  | nil =>
    obtain rfl := Option.some.inj h
    exact fun _ hmem => absurd hmem List.not_mem_nil
  | cons a l ih =>
    rw [List.mapM_cons] at h
    obtain ⟨b, hb, h⟩ := Option.bind_eq_some_iff.mp h
    obtain ⟨rest, hrest, h⟩ := Option.bind_eq_some_iff.mp h
    obtain rfl := Option.some.inj h
    refine List.forall_mem_cons.mpr ⟨⟨a, List.mem_cons_self, hb⟩, fun b' hb' => ?_⟩
    obtain ⟨a', ha', hf⟩ := ih hrest b' hb'
    exact ⟨a', List.mem_cons_of_mem _ ha', hf⟩

theorem mem_orderedRoutes {route : OnboardingRoute} (h : route ∈ orderedRoutes t) :
    route ∈ t.routes := by
  obtain ⟨kind, -, hfind⟩ := List.mem_filterMap.mp h
  exact List.mem_of_find?_eq_some hfind

theorem validSha256_whole {value : String} (h : validSha256 value = true) :
    '\n' ∉ value.toList := by
  intro hmem
  simp only [validSha256, Bool.and_eq_true, List.all_eq_true] at h
  have := h.2 _ hmem
  revert this
  decide

variable [UrlParser]

theorem filesUrl_whole [UrlText] {route : OnboardingRoute} {url : String}
    (h : filesUrl route = some url) : '\n' ∉ url.toList := by
  obtain ⟨u, hu, rfl⟩ := Option.map_eq_some_iff.mp h
  unfold onboardingUrl at hu
  rw [if_pos (by decide +kernel)] at hu
  obtain ⟨v, hv, hu⟩ := Option.bind_eq_some_iff.mp hu
  dsimp only at hu
  by_cases hrefused : (!v.isSocket || v.host.isNone || v.path ≠ "/ws" || !v.isPlain ||
      v.port = some 0 || v.host.any Host.isRefused) = true
  · rw [if_pos hrefused] at hu
    cases hu
  · have hsocket : v.isSocket = true := by
      by_contra hno
      simp [hno] at hrefused
    rw [if_neg hrefused] at hu
    rw [← Option.some.inj hu]
    exact UrlText.href_whole hv hsocket (if v.scheme = "wss" then "https" else "http")
      (by split_ifs <;> simp)

variable [Config.ConfigEnv] [JournalEnv] [PemRoots] [UrlText] [TicketChecks]
  {routes : List (String × String)}

theorem route_guarded (hvalid : t.validate = true) (hroutes : routeSlots t = some routes)
    {url pem : String} (h : (url, pem) ∈ routes) :
    '\n' ∉ url.toList ∧ ShellText.Guarded scriptEnds pem.toList := by
  obtain ⟨route, hroute, hslot⟩ := mapM_mem hroutes _ h
  obtain ⟨url', hurl, hpair⟩ := Option.map_eq_some_iff.mp hslot
  rw [Prod.mk.injEq] at hpair
  refine ⟨hpair.1 ▸ filesUrl_whole hurl, ?_⟩
  rw [← hpair.2]
  cases hca : route.caPem with
  | none => exact guarded_of_whole (by decide)
  | some ca =>
    simp only [OnboardingTicket.validate, Bool.and_eq_true] at hvalid
    have hall := hvalid.1.2
    rw [TicketChecks.routes] at hall
    simp only [validateRoutes, Bool.and_eq_true, List.all_eq_true] at hall
    have hone := hall.2 route (mem_orderedRoutes hroute)
    unfold validRoute at hone
    cases hparse : parse route.routerUrl with
    | none =>
      rw [hparse] at hone
      cases hone
    | some u =>
      rw [hparse, hca] at hone
      simp only [Option.any_some, Option.all_some, Bool.and_eq_true] at hone
      exact validateCaPem_guarded ((TicketChecks.caPem ca).symm.trans hone.2.2)

/-- No value of a slot can end the script or the block around it. -/
theorem slotValue_guarded (hvalid : t.validate = true) (hroutes : routeSlots t = some routes)
    (slot : PromptSlot) : ShellText.Guarded scriptEnds (slotValue t routes slot) := by
  cases slot with
  | pinnedProvider =>
    apply guarded_of_whole
    change '\n' ∉ ((t.provider.map providerName).getD "").toList
    cases t.provider with
    | none => exact List.not_mem_nil
    | some provider => cases provider <;> decide
  | sha256 target =>
    apply guarded_of_whole
    change '\n' ∉ (((artifactOf t target).map BootstrapArtifact.binarySha256).getD "").toList
    cases hartifact : artifactOf t target with
    | none => exact List.not_mem_nil
    | some artifact =>
      have hmem := List.mem_of_find?_eq_some hartifact
      simp only [OnboardingTicket.validate, validArtifacts, Bool.and_eq_true, List.all_eq_true]
        at hvalid
      have hone := hvalid.2.1.2 artifact hmem
      simp only [validArtifact, Bool.and_eq_true] at hone
      exact validSha256_whole hone.1.1.1.1.1.2
  | bytes target =>
    apply guarded_of_whole
    change '\n' ∉ ((artifactOf t target).map fun artifact =>
      JsonValue.encodeNat 20 artifact.binaryBytes).getD ['0']
    cases artifactOf t target with
    | none => decide
    | some artifact => exact JsonValue.encodeNat_whole _ _
  | route index =>
    change ShellText.Guarded scriptEnds (((routes[index]?).map Prod.fst).getD "").toList
    cases hindex : routes[index]? with
    | none => exact guarded_of_whole List.not_mem_nil
    | some pair =>
      exact guarded_of_whole (route_guarded hvalid hroutes (List.mem_of_getElem? hindex)).1
  | ca index =>
    change ShellText.Guarded scriptEnds (((routes[index]?).map Prod.snd).getD "").toList
    cases hindex : routes[index]? with
    | none => exact guarded_of_whole List.not_mem_nil
    | some pair => exact (route_guarded hvalid hroutes (List.mem_of_getElem? hindex)).2
  | ticketJson => exact guarded_of_whole (JsonValue.encode_whole _)

end

/-- The values of a ticket in the slots of the template. -/
def filling (t : OnboardingTicket) (routes : List (String × String)) :
    ShellText.Filling PromptSlot where
  word := slotValue t routes
  line _ := t.toJson.encode
  line_whole _ := JsonValue.encode_whole _
  line_marked _ := ⟨'\x7b', by simp [OnboardingTicket.toJson, JsonValue.encode], by decide⟩

/-- The script of a ticket. -/
def scriptOf (t : OnboardingTicket) (routes : List (String × String)) : List Char :=
  template.flatMap (renderSymbol t routes)

def lineSlot : ShellSymbol PromptSlot → Option PromptSlot
  | .line slot => some slot
  | _ => none

/-- The only line among the slots is the one of the JSON. -/
theorem symbols_line {parts : List (List Char)} {script : List (ShellSymbol PromptSlot)}
    (h : symbols parts = some script) : ∀ slot, .line slot ∈ script → slot = .ticketJson := by
  have hchars : ∀ (text : List Char) (slot : PromptSlot),
      ShellSymbol.line slot ∉ text.map ShellSymbol.char := by
    intro text slot hmem
    obtain ⟨c, -, hc⟩ := List.mem_map.mp hmem
    cases hc
  have hnames : ∀ entry ∈ slotNames, ∀ slot, entry.2 = .line slot → slot = .ticketJson := by
    intro entry hentry slot hslot
    have hlines : slotNames.filterMap (fun entry => lineSlot entry.2) = [.ticketJson] := by
      decide +kernel
    have hmem : slot ∈ slotNames.filterMap fun entry => lineSlot entry.2 :=
      List.mem_filterMap.mpr ⟨entry, hentry, by rw [hslot]; rfl⟩
    rw [hlines] at hmem
    exact List.mem_singleton.mp hmem
  induction parts using symbols.induct generalizing script with
  | case1 =>
    obtain rfl := Option.some.inj h
    exact fun _ hmem => absurd hmem List.not_mem_nil
  | case2 text =>
    obtain rfl := Option.some.inj h
    exact fun slot hmem => absurd hmem (hchars text slot)
  | case3 text name rest ih =>
    rw [symbols] at h
    obtain ⟨symbol, hsymbol, h⟩ := Option.bind_eq_some_iff.mp h
    obtain ⟨more, hmore, h⟩ := Option.bind_eq_some_iff.mp h
    obtain rfl := Option.some.inj h
    obtain ⟨entry, hentry, rfl⟩ := Option.map_eq_some_iff.mp hsymbol
    intro slot hmem
    rcases List.mem_append.mp hmem with hmem | hmem
    · exact absurd hmem (hchars text slot)
    · rcases List.mem_cons.mp hmem with hhead | hmem
      · exact hnames entry (List.mem_of_find?_eq_some hentry) slot hhead.symm
      · exact ih hmore slot hmem

theorem scriptOf_eq (t : OnboardingTicket) (routes : List (String × String)) :
    scriptOf t routes = template.flatMap (ShellText.fillChars (filling t routes)) := by
  unfold scriptOf
  apply List.flatMap_congr
  intro symbol hmem
  cases symbol with
  | char c => rfl
  | word slot => rfl
  | line slot =>
    obtain rfl := symbols_line template_checked.1 slot hmem
    rfl

/-- What a shell reads before the script. -/
def openingTokens : List (Token PromptSlot) :=
  [.word ("sh".toList.map .plain), .operator '<', .operator '<',
    .word ("ASR_BOOTSTRAP_SCRIPT".toList.map .literal), .newline]

def scriptDelimiter : ShellText.Delimiter := ⟨"ASR_BOOTSTRAP_SCRIPT".toList, by decide⟩

theorem opening_read : ∃ r : ShellText.Reader PromptSlot,
    (scriptOpening.map ShellSymbol.char).foldlM ShellText.Reader.step .start = some r ∧
      r.mode = .document scriptDelimiter [] [] ∧ r.word = none ∧ r.expects = false ∧
      r.delimiter = none ∧ r.tokens.reverse = openingTokens :=
  ⟨{ mode := .document scriptDelimiter [] [], word := none, tokens := openingTokens.reverse,
     less := false, expects := false, delimiter := none }, by decide +kernel, rfl, rfl, rfl, rfl, by
     decide +kernel⟩

/-- The block of a prompt, between its fences. -/
def blockOf (script : List Char) : List Char := scriptOpening ++ script ++ scriptClosing

/-- A text with fewer lines to avoid. -/
theorem scan_subset {ends ends' : List (List Char)} (hsub : ∀ e ∈ ends', e ∈ ends)
    {line text line' : List Char} (h : ShellText.scan ends line text = some line') :
    ShellText.scan ends' line text = some line' := by
  induction text generalizing line with
  | nil => exact h
  | cons c text ih =>
    rw [ShellText.scan] at h ⊢
    by_cases hc : c = '\n'
    · rw [if_pos hc] at h ⊢
      by_cases hends : ends.contains line.reverse = true
      · rw [if_pos hends] at h
        cases h
      · have hends' : ¬ends'.contains line.reverse = true := fun hmem =>
          hends (List.contains_iff_mem.mpr (hsub _ (List.contains_iff_mem.mp hmem)))
        rw [if_neg hends] at h
        rw [if_neg hends']
        exact ih h
    · rw [if_neg hc] at h ⊢
      exact ih h

/-- A variable that is set to a slot is set to its value, which is taken literally. -/
theorem fill_assigned (t : OnboardingTicket) (routes : List (String × String)) (name : String)
    (slot : PromptSlot) : ShellText.fillToken (filling t routes) (assigned name slot) =
      .word ((name.toList ++ ['=']).map .plain ++ (slotValue t routes slot).map .literal) := by
  have hplain : ∀ cs : List Char, (cs.map Piece.plain).flatMap
      (ShellText.fillPiece (filling t routes)) = cs.map .plain := by
    intro cs
    induction cs with
    | nil => rfl
    | cons c cs ih => rw [List.map_cons, List.flatMap_cons, ih]; rfl
  change Token.word (((name.toList ++ ['=']).map Piece.plain ++ [Piece.hole slot]).flatMap
    (ShellText.fillPiece (filling t routes))) = _
  rw [List.flatMap_append, hplain, List.flatMap_singleton]
  rfl

/-- The lines of the block that are no lines of the script end neither it nor the block. -/
theorem block_scan {script : List Char} (h : ShellText.scan scriptEnds [] script = some []) :
    ShellText.scan ["```".toList] [] (blockOf script) = some [] := by
  have hfence : ∀ e ∈ ["```".toList], e ∈ scriptEnds := by simp [scriptEnds]
  have hscript := scan_subset hfence h
  have hopening : ShellText.scan ["```".toList] [] scriptOpening = some [] := by decide +kernel
  have hclosing : ShellText.scan ["```".toList] [] scriptClosing = some [] := by decide +kernel
  unfold blockOf
  rw [ShellText.scan_append, ShellText.scan_append, hopening, Option.bind_some, hscript,
    Option.bind_some, hclosing]

/-- The block is one here-document with the script. -/
theorem block_read {script : List Char} (h : ShellText.scan scriptEnds [] script = some []) :
    ∃ lines, ShellText.read ((blockOf script).map (@ShellSymbol.char PromptSlot)) =
        some (openingTokens ++ [.document lines]) ∧
      ShellText.documentText lines = script.map .char := by
  obtain ⟨r, hread, hmode, hword, hexpects, hdelimiter, htokens⟩ := opening_read
  obtain ⟨lines, hlines, htext⟩ := ShellText.read_document hread hmode hword hexpects hdelimiter
    (show scriptDelimiter.chars ∈ scriptEnds from List.mem_cons_self) h
  refine ⟨lines, ?_, htext⟩
  rw [htokens] at hlines
  rw [← hlines, blockOf, List.append_assoc, List.map_append]
  have hclosing : scriptClosing = scriptDelimiter.chars ++ ['\n'] := by decide +kernel
  rw [hclosing, List.append_assoc]

/-- The lines that open and close the block of a prompt. -/
def fences : List (List Char) := ["```".toList, "```sh".toList]

/-- A text that ends with a line, none of them a fence. -/
def Unfenced (parts : List String) : Prop := ShellText.scan fences [] (textOf parts) = some []

/-- A text without fences whose last line is not over. -/
def Pending (parts : List String) : Prop :=
  ∃ line, ShellText.scan fences [] (textOf parts) = some line ∧
    ShellText.isMarked fences line = true

theorem Unfenced.append {parts more : List String} (h : Unfenced parts) (hmore : Unfenced more) :
    Unfenced (parts ++ more) := by
  unfold Unfenced at *
  rw [textOf, List.flatMap_append, ShellText.scan_append]
  exact (congrArg (Option.bind · _) h).trans hmore

theorem Unfenced.flatMap {α : Type} {l : List α} {f : α → List String}
    (h : ∀ a ∈ l, Unfenced (f a)) : Unfenced (l.flatMap f) := by
  induction l with
  | nil => rfl
  | cons a l ih =>
    obtain ⟨ha, hl⟩ := List.forall_mem_cons.mp h
    exact ha.append (ih hl)

/-- A value inside a pending line changes nothing for the lines behind it. -/
theorem unfenced_value {before parts : List String} {value : String} (hbefore : Pending before)
    (hvalue : '\n' ∉ value.toList) (hparts : ∃ part ∈ parts, '\n' ∈ part.toList)
    (h : Unfenced (before ++ parts)) : Unfenced (before ++ value :: parts) := by
  obtain ⟨line, hscan, hmark⟩ := hbefore
  unfold Unfenced at *
  rw [← h, textOf, textOf, List.flatMap_append, List.flatMap_append, List.flatMap_cons]
  exact ShellText.scan_inside hscan hmark hvalue (List.mem_flatMap.mpr hparts)

theorem toText_whole (id : Uuid) : '\n' ∉ id.toText.toList := by
  have hdigit : ∀ c ∈ id.simple.toList, c ≠ '\n' := by
    unfold Uuid.simple
    rw [String.toList_ofList]
    intro c hc
    rcases List.mem_append.mp (List.mem_reverse.mp hc) with hc | hc
    · obtain ⟨d, hd, rfl⟩ := List.mem_map.mp hc
      have hlt := Nat.digits_lt_base (by norm_num) hd
      have : ∀ i : Fin 16, JsonValue.hexDigit i ≠ '\n' := by decide
      exact this ⟨d, hlt⟩
    · rw [List.eq_of_mem_replicate hc]
      decide
  intro hmem
  unfold Uuid.toText at hmem
  have hdrop : ∀ n, '\n' ∉ id.simple.toList.drop n := fun n h =>
    hdigit _ (List.drop_subset _ _ h) rfl
  have htake : ∀ m n, '\n' ∉ (id.simple.toList.drop m).take n := fun m n h =>
    hdrop m (List.take_subset _ _ h)
  simp [htake, hdrop, show '\n' ∉ id.simple.toList.take 8 from htake 0 8] at hmem

theorem isIdentifier_whole {extra text : List Char} (hextra : '\n' ∉ extra)
    (h : isIdentifier extra text = true) : '\n' ∉ text := by
  cases text with
  | nil => exact List.not_mem_nil
  | cons c text =>
    rw [isIdentifier, Bool.and_eq_true] at h
    intro hmem
    rcases List.mem_cons.mp hmem with rfl | hmem
    · exact absurd h.1 (by decide)
    · have hone := List.all_eq_true.mp h.2 _ hmem
      rw [Bool.or_eq_true, decide_eq_true_eq] at hone
      exact hone.elim (by decide) hextra

/-- What an introduction says apart from its values. -/
def introductionFixed : List String :=
  ["# ASR workspace onboarding\n\n", "Server: `", "`\nProfile: `", "`\nWorkspace: `", "`\n\n",
    "This prompt contains a **one-time invitation valid for 10 minutes from issuance**. Its ",
    "server-authoritative expiry is `"]

/-- The places of the values. -/
theorem introductionFixed_pending : ∀ n ∈ [2, 3, 4, 7], Pending (introductionFixed.take n) := by
  have hchars : ∃ chars, List.Forall₂ Spelled introductionFixed chars ∧
      ∀ n ∈ [2, 3, 4, 7],
        (ShellText.scan fences [] (chars.take n).flatten).any
          (ShellText.isMarked fences) = true := by
    apply Exists.intro
    apply And.intro
    · dsimp only [introductionFixed]
      repeat (first | exact .nil | apply List.Forall₂.cons; exact rfl)
    · decide +kernel
  obtain ⟨chars, hspelled, hcheck⟩ := hchars
  intro n hn
  obtain ⟨line, hline, hmark⟩ := (Option.any_eq_true _ _).mp (hcheck n hn)
  refine ⟨line, ?_, hmark⟩
  rw [textOf, textOf_spelled (List.forall₂_take n hspelled), hline]

theorem unfenced_of_spelled {notes : List (List String)} {chars : List (List (List Char))}
    (h : List.Forall₂ (List.Forall₂ Spelled) notes chars)
    (hchars : ∀ note ∈ chars, ShellText.scan fences [] note.flatten = some []) :
    ∀ note ∈ notes, Unfenced note := by
  induction h with
  | nil => exact fun _ hmem => absurd hmem List.not_mem_nil
  | @cons note spelled _ _ hnote _ ih =>
    obtain ⟨hone, hrest⟩ := List.forall_mem_cons.mp hchars
    apply List.forall_mem_cons.mpr ⟨?_, ih hrest⟩
    rw [Unfenced, textOf, textOf_spelled hnote, hone]

/-- The fixed texts of a prompt before the script. -/
def notes (t : OnboardingTicket) : List (List String) :=
  [introductionFixed ++ (introduction t).drop 11, workspaceNote, requirements, localWarning, review,
    restriction .claudeCode, restriction .codexCli, restriction .omp]

theorem notes_unfenced (t : OnboardingTicket) : ∀ note ∈ notes t, Unfenced note := by
  have hchars : ∃ chars, List.Forall₂ (List.Forall₂ Spelled) (notes t) chars ∧
      ∀ note ∈ chars, ShellText.scan fences [] note.flatten = some [] := by
    apply Exists.intro
    apply And.intro
    · dsimp only [notes, introductionFixed, introduction, workspaceNote, requirements, localWarning,
        review, restriction, List.cons_append, List.nil_append, List.drop]
      repeat (first | exact .nil | apply List.Forall₂.cons; exact rfl | apply List.Forall₂.cons)
    · decide +kernel
  obtain ⟨chars, hspelled, hcheck⟩ := hchars
  exact unfenced_of_spelled hspelled hcheck

theorem introduction_unfenced {t : OnboardingTicket} (hprofile : '\n' ∉ t.profileName.toList) :
    Unfenced (introduction t) := by
  have hworkspace : '\n' ∉ t.workspace.asStr.toList := by
    have := t.workspace.valid
    rw [isWorkspaceName, Bool.and_eq_true] at this
    exact isIdentifier_whole (by decide) this.2
  have hexpiry : '\n' ∉ (String.ofList (JsonValue.encodeNat 20 t.expiresAt.toNat)).toList := by
    rw [String.toList_ofList]
    exact JsonValue.encodeNat_whole _ _
  have hpending := introductionFixed_pending
  change Unfenced (introductionFixed.take 2 ++ t.serverId.toText :: (introduction t).drop 3)
  apply unfenced_value (hpending 2 (by decide)) (toText_whole _)
    ⟨"`\nProfile: `", by simp [introduction], by decide⟩
  change Unfenced (introductionFixed.take 3 ++ t.profileName :: (introduction t).drop 5)
  apply unfenced_value (hpending 3 (by decide)) hprofile
    ⟨"`\nWorkspace: `", by simp [introduction], by decide⟩
  change Unfenced (introductionFixed.take 4 ++ t.workspace.asStr :: (introduction t).drop 7)
  apply unfenced_value (hpending 4 (by decide)) hworkspace
    ⟨"`\n\n", by simp [introduction], by decide⟩
  change Unfenced (introductionFixed.take 7 ++
    String.ofList (JsonValue.encodeNat 20 t.expiresAt.toNat) :: (introduction t).drop 11)
  apply unfenced_value (hpending 7 (by decide)) hexpiry
    ⟨"credential.\n\n", by simp [introduction], by decide⟩
  exact notes_unfenced t _ List.mem_cons_self

theorem validProfileName_whole {name : String} (h : validProfileName name = true) :
    '\n' ∉ name.toList := by
  rw [validProfileName, Bool.and_eq_true] at h
  exact isIdentifier_whole (by decide) h.2

/-- No line before the block is a fence. -/
theorem promptHead_unfenced [JournalEnv] {t : OnboardingTicket} (hvalid : t.validate = true) :
    ShellText.scan fences [] (promptHead t) = some [] := by
  have hnotes := notes_unfenced t
  simp only [notes, List.forall_mem_cons] at hnotes
  obtain ⟨-, hworkspace, hrequirements, hwarning, hreview, hclaude, hcodex, homp, -⟩ := hnotes
  have hrestriction : Unfenced (t.provider.elim [] restriction) := by
    cases t.provider with
    | none => rfl
    | some provider =>
      cases provider with
      | claudeCode => exact hclaude
      | codexCli => exact hcodex
      | omp => exact homp
  have htargets : Unfenced (suppliedTargets t) := by
    apply Unfenced.flatMap
    intro target htarget
    have hall : ∀ target ∈ targets,
        ShellText.scan fences [] (textOf ["- `", target, "`\n"]) = some [] := by
      decide +kernel
    exact hall target (List.mem_filter.mp htarget).1
  have hlocal : Unfenced (localNote t) := by
    unfold localNote
    split_ifs
    · exact hwarning
    · rfl
  simp only [OnboardingTicket.validate, Bool.and_eq_true] at hvalid
  have hprofile := validProfileName_whole hvalid.1.1.1.1.2
  exact ((((((introduction_unfenced hprofile).append hrestriction).append hworkspace).append
    htargets).append hrequirements).append hlocal).append hreview

theorem scriptOf_read (t : OnboardingTicket) (routes : List (String × String)) :
    ShellText.read ((scriptOf t routes).map .char) =
      some (templateTokens.map (ShellText.fillToken (filling t routes))) := by
  have hread := template_checked.2.2.2.1
  rw [scriptOf_eq, ← ShellText.flatMap_fillSymbol]
  exact ShellText.read_fill hread

/-- The parts of a prompt. -/
theorem renderPrompt_cases [UrlParser] [JournalEnv] {t : OnboardingTicket} {text : List Char}
    (h : renderPrompt t = some text) :
    t.validate = true ∧ t.toJson.encodedLen ≤ maxTicketBytes ∧
      ∃ routes after, routeSlots t = some routes ∧
        text = promptHead t ++ "```sh\n".toList ++ blockOf (scriptOf t routes) ++
          "```\n".toList ++ after := by
  unfold renderPrompt at h
  by_cases hrefused : (!t.validate || maxTicketBytes < t.toJson.encodedLen) = true
  · rw [if_pos hrefused] at h
    cases h
  · rw [if_neg hrefused] at h
    simp only [Bool.or_eq_true, not_or, Bool.not_eq_true', Bool.not_eq_false, decide_eq_true_eq,
      not_lt] at hrefused
    obtain ⟨routes, hroutes, h⟩ := Option.bind_eq_some_iff.mp h
    rw [template_checked.1] at h
    refine ⟨hrefused.1, hrefused.2, routes, '\n' :: textOf closing, hroutes, ?_⟩
    rw [← Option.some.inj h]
    have hfence : "```\n\n".toList = "```\n".toList ++ ['\n'] := by decide +kernel
    simp only [hfence, blockOf, scriptOf, List.append_assoc, List.singleton_append]

theorem renderPrompt_of_routes [UrlParser] [JournalEnv] {t : OnboardingTicket}
    {routes : List (String × String)} (hvalid : t.validate = true)
    (hlen : t.toJson.encodedLen ≤ maxTicketBytes) (hroutes : routeSlots t = some routes) :
    ∃ text, renderPrompt t = some text := by
  have hchecked : ¬(!t.validate || maxTicketBytes < t.toJson.encodedLen) = true := by
    simp [hvalid, hlen]
  unfold renderPrompt
  rw [if_neg hchecked, hroutes, template_checked.1]
  exact ⟨_, rfl⟩

section

variable [UrlParser] [Config.ConfigEnv] [JournalEnv] [PemRoots] [UrlText] [TicketChecks]
  {t : OnboardingTicket} {routes : List (String × String)}

/-- No line of the script ends it, and it ends with a line. -/
theorem script_scan (hvalid : t.validate = true) (hroutes : routeSlots t = some routes) :
    ShellText.scan scriptEnds [] (scriptOf t routes) = some [] := by
  obtain ⟨-, hholes, hlast, -, -⟩ := template_checked
  have hline : ∀ slot, ShellText.isMarked scriptEnds ((filling t routes).line slot) = true := by
    intro slot
    refine List.any_eq_true.mpr ⟨'\x7b', ?_, by decide⟩
    simp [filling, OnboardingTicket.toJson, JsonValue.encode]
  have hguarded : ∀ slot, .word slot ∈ template →
      ShellText.Guarded scriptEnds ((filling t routes).word slot) :=
    fun slot _ => slotValue_guarded hvalid hroutes slot
  obtain ⟨line, hscan⟩ : ∃ line,
      ShellText.scan scriptEnds [] (template.flatMap (ShellText.fillChars (filling t routes))) =
        some line :=
    ShellText.scan_fill (by decide) hline hguarded (by simp) (by simp) hholes
  rw [← scriptOf_eq] at hscan
  obtain ⟨before, hbefore⟩ := List.getLast?_eq_some_iff.mp hlast
  have hscript : scriptOf t routes = before.flatMap (renderSymbol t routes) ++ ['\n'] := by
    unfold scriptOf
    rw [hbefore, List.flatMap_append]
    rfl
  rw [hscript, ShellText.scan_append] at hscan ⊢
  obtain ⟨middle, hmiddle, hend⟩ := Option.bind_eq_some_iff.mp hscan
  rw [hmiddle, Option.bind_some]
  rw [ShellText.scan, if_pos rfl] at hend ⊢
  split_ifs at hend ⊢
  rfl

/-- Whatever a ticket holds, its prompt is one block between its first fence line and the next, the
block is one here-document, and the document is the template with each slot filled by one literal
word, or by the line of the JSON. -/
theorem renderPrompt_safe {text : List Char} (h : renderPrompt t = some text) :
    ∃ routes after, routeSlots t = some routes ∧
      text = promptHead t ++ "```sh\n".toList ++ blockOf (scriptOf t routes) ++ "```\n".toList ++
        after ∧
      ShellText.scan fences [] (promptHead t) = some [] ∧
      ShellText.scan ["```".toList] [] (blockOf (scriptOf t routes)) = some [] ∧
      (∃ lines, ShellText.read ((blockOf (scriptOf t routes)).map .char) =
          some (openingTokens ++ [.document lines]) ∧
        ShellText.documentText lines = (scriptOf t routes).map .char) ∧
      ShellText.read ((scriptOf t routes).map .char) =
        some (templateTokens.map (ShellText.fillToken (filling t routes))) ∧
      templateTokens.filter hasSlot = slotTokens ∧
      (∀ name slot, ShellText.fillToken (filling t routes) (assigned name slot) =
        .word ((name.toList ++ ['=']).map .plain ++ (slotValue t routes slot).map .literal)) ∧
      ShellText.fillToken (filling t routes) (.document [[.line .ticketJson]]) =
        .document [t.toJson.encode.map .char] := by
  obtain ⟨hvalid, -, routes, after, hroutes, htext⟩ := renderPrompt_cases h
  have hscan := script_scan hvalid hroutes
  have hslots := template_checked.2.2.2.2.1
  refine ⟨routes, after, hroutes, htext, promptHead_unfenced hvalid, block_scan hscan,
    block_read hscan, scriptOf_read t routes, hslots, fill_assigned t routes, ?_⟩
  simp [ShellText.fillToken, ShellText.fillSymbol, filling]

end

namespace PromptSample

open Config.Sample (readUrl_cases good odd)

scoped instance parser : UrlParser := Config.Sample.parser

def certificate : String :=
  "-----BEGIN CERTIFICATE-----\nMAoGCCqGSM49BAMC/+==\n-----END CERTIFICATE-----\n"

/-- The roots can read one certificate. -/
scoped instance roots : PemRoots where
  accepted pem := pem = certificate

scoped instance env : Config.ConfigEnv where
  validCaPem := validateCaPem
  digest _ := Sample.digest
  digest_valid _ := Config.Sample.digest_checked
  configBytes _ := 512

scoped instance journalEnv : JournalEnv where
  validRoutes := validateRoutes
  enrollUrl _ := true
  stateBytes _ := 1161
  requestBytes _ := 368

scoped instance checks : TicketChecks where
  routes _ := rfl
  caPem _ := rfl

scoped instance urlText : UrlText where
  href_whole h _ scheme hscheme := by
    rcases readUrl_cases h with ⟨-, rfl⟩ | ⟨-, rfl⟩ | ⟨-, rfl⟩ <;>
      rcases List.mem_cons.mp hscheme with rfl | hscheme <;>
      first
        | decide +kernel
        | (rw [List.mem_singleton.mp hscheme]; decide +kernel)

/-- A ticket for one provider, with a route on the local network that has a certificate, and a
public one. -/
def ticket : OnboardingTicket :=
  { Sample.ticket with
    provider := some .codexCli
    routes := [{ good with caPem := some certificate },
      { odd with routerUrl := "wss://0.0.4.210/ws" }] }

end PromptSample

open scoped PromptSample in
theorem renderPrompt_safe_sample : ∃ text routes after,
    renderPrompt PromptSample.ticket = some text ∧
      text = promptHead PromptSample.ticket ++ "```sh\n".toList ++
        blockOf (scriptOf PromptSample.ticket routes) ++ "```\n".toList ++ after := by
  have hroutes : routeSlots PromptSample.ticket =
      some [("https://10.0.0.2/onboarding/files/", PromptSample.certificate),
        ("https://0.0.4.210/onboarding/files/", "")] := by
    decide +kernel
  obtain ⟨text, hrender⟩ :=
    renderPrompt_of_routes (by decide +kernel) (by decide +kernel) hroutes
  obtain ⟨routes, after, -, htext, -⟩ := renderPrompt_safe hrender
  exact ⟨text, routes, after, hrender, htext⟩

end SessionRouter.Onboarding
