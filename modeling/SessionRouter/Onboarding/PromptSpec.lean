import SessionRouter.Onboarding.Prompt

/-!
What a shell reads in a prompt: the template with every slot filled by one word, and the JSON of the
ticket in a here-document.
-/

namespace SessionRouter.Onboarding

open Config (validateRoutes validRoute validRouteUrl validCaPem)

/-- The template with its slots. -/
def template : List (ShellSymbol PromptSlot) := (symbols (fragments templateText)).getD []

/-- How a shell reads the template. -/
def templateTokens : List (Token PromptSlot) := (ShellText.read template).getD []

def isHole : Piece PromptSlot → Bool
  | .hole _ => true
  | _ => false

def isSlot : ShellSymbol PromptSlot → Bool
  | .char _ => false
  | _ => true

def hasSlot : Token PromptSlot → Bool
  | .word pieces => pieces.any isHole
  | .document lines => lines.any fun line => line.any isSlot
  | _ => false

/-- A variable is set to a slot. -/
def assigned (name : String) (slot : PromptSlot) : Token PromptSlot :=
  .word ((name.toList ++ ['=']).map .plain ++ [.hole slot])

/-- Where the slots of the template are read. -/
def slotTokens : List (Token PromptSlot) :=
  [assigned "asr_pinned_provider" .pinnedProvider,
    assigned "asr_sha256" (.sha256 0), assigned "asr_bytes" (.bytes 0),
    assigned "asr_sha256" (.sha256 1), assigned "asr_bytes" (.bytes 1),
    assigned "asr_sha256" (.sha256 2), assigned "asr_bytes" (.bytes 2),
    assigned "asr_sha256" (.sha256 3), assigned "asr_bytes" (.bytes 3),
    assigned "asr_route_1" (.route 0), assigned "asr_ca_1" (.ca 0),
    assigned "asr_route_2" (.route 1), assigned "asr_ca_2" (.ca 1),
    assigned "asr_route_3" (.route 2), assigned "asr_ca_3" (.ca 2),
    assigned "asr_route_4" (.route 3), assigned "asr_ca_4" (.ca 3),
    .document [[.line .ticketJson]]]

/-- The lines that would end the script or the block around it. -/
def scriptEnds : List (List Char) := ["ASR_BOOTSTRAP_SCRIPT".toList, "```".toList]

/-- No line of the script ends the block around it, and the last one is whole. -/
def scriptChecks (text : List Char) : Bool :=
  match symbols (fragments text) with
  | none => false
  | some script =>
    ShellText.scanHoles scriptEnds (some []) script && script.getLast? = some (.char '\n')

/-- A part of the template ends with a line outside of marks and quotations. -/
def partChecks (text : List Char) (slots : List (Token PromptSlot))
    (documents : List (List (List (ShellSymbol PromptSlot)))) : Bool :=
  text.getLast? = some '\n' && (fragments text).length % 2 = 1 &&
    match symbols (fragments text) with
    | none => false
    | some script =>
      match script.foldlM ShellText.Reader.step ShellText.Reader.start with
      | none => false
      | some r =>
        r = ShellText.Reader.start.onto r.tokens && r.tokens.reverse.filter hasSlot = slots &&
          r.tokens.reverse.filterMap ShellText.documentLines = documents

/-- The fragments of two texts, one after the other. -/
def joined : List (List Char) → List (List Char) → List (List Char)
  | [last], first :: rest => (last ++ first) :: rest
  | xs, [] => xs
  | [], ys => ys
  | x :: xs, ys => x :: joined xs ys

theorem joined_cons {x : List Char} {xs ys : List (List Char)} (hxs : xs ≠ []) :
    joined (x :: xs) ys = x :: joined xs ys := by
  cases xs with
  | nil => exact absurd rfl hxs
  | cons x' xs =>
    cases ys with
    | nil => cases xs <;> rfl
    | cons y ys => rfl

theorem fragments_ne_nil (text : List Char) : fragments text ≠ [] := by
  induction text using fragments.induct with
  | case1 => exact List.cons_ne_nil _ _
  | case2 text ih => exact List.cons_ne_nil _ _
  | case3 c text hc h ih => exact absurd h ih
  | case4 c text hc first rest h ih =>
    rw [fragments.eq_3 c text hc, h]
    exact List.cons_ne_nil _ _

theorem fragments_line (text : List Char) : fragments ('\n' :: text) =
    joined [['\n']] (fragments text) := by
  rw [fragments.eq_3 '\n' text (fun _ h => absurd h (by decide))]
  cases fragments text <;> rfl

/-- After the end of a line no mark is cut in two. -/
theorem fragments_append (a b : List Char) :
    fragments (a ++ '\n' :: b) = joined (fragments (a ++ ['\n'])) (fragments b) := by
  induction a using fragments.induct with
  | case1 => exact fragments_line b
  | case2 text ih =>
    show [] :: fragments (text ++ '\n' :: b) = joined ([] :: fragments (text ++ ['\n'])) _
    rw [joined_cons (fragments_ne_nil _), ih]
  | case3 c text hc h ih => exact absurd h (fragments_ne_nil text)
  | case4 c text hc first rest h ih =>
    have hc' : ∀ d text', c = '@' → text ++ '\n' :: d = '@' :: text' → False := by
      intro d text' hat htext
      cases text with
      | nil => cases htext
      | cons t text =>
        obtain ⟨rfl, -⟩ := List.cons.inj htext
        exact hc text hat rfl
    rw [List.cons_append, List.cons_append, fragments.eq_3 _ _ (hc' b),
      fragments.eq_3 _ _ (hc' []), ih]
    cases hline : fragments (text ++ ['\n']) with
    | nil => exact absurd hline (fragments_ne_nil _)
    | cons x xs =>
      cases hb : fragments b with
      | nil => exact absurd hb (fragments_ne_nil _)
      | cons y ys => cases xs <;> rfl

theorem symbols_joined {xs ys : List (List Char)} {s t : List (ShellSymbol PromptSlot)}
    (hodd : xs.length % 2 = 1) (hxs : symbols xs = some s) (hys : symbols ys = some t) :
    symbols (joined xs ys) = some (s ++ t) := by
  induction xs using symbols.induct generalizing s with
  | case1 => cases hodd
  | case2 text =>
    cases hxs
    cases ys with
    | nil =>
      cases hys
      rw [List.append_nil]
      rfl
    | cons y ys =>
      cases ys with
      | nil =>
        cases hys
        rw [← List.map_append]
        rfl
      | cons name rest =>
        rw [symbols] at hys
        show symbols ((text ++ y) :: name :: rest) = _
        rw [symbols]
        cases hslot : slotOf name with
        | none =>
          rw [hslot] at hys
          cases hys
        | some slot =>
          rw [hslot] at hys
          cases hrest : symbols rest with
          | none =>
            rw [hrest] at hys
            cases hys
          | some r =>
            rw [hrest] at hys
            cases hys
            simp
  | case3 text name rest ih =>
    have hlength : rest.length % 2 = 1 := by
      rw [List.length_cons, List.length_cons] at hodd
      omega
    have hne : rest ≠ [] := by
      rintro rfl
      exact absurd hlength (by decide)
    rw [symbols] at hxs
    rw [joined_cons (List.cons_ne_nil _ _), joined_cons hne, symbols]
    cases hslot : slotOf name with
    | none =>
      rw [hslot] at hxs
      cases hxs
    | some slot =>
      rw [hslot] at hxs
      cases hrest : symbols rest with
      | none =>
        rw [hrest] at hxs
        cases hxs
      | some r =>
        rw [hrest] at hxs
        cases hxs
        rw [ih hlength hrest]
        simp

/-- A shell reads the text as whole tokens; these are the ones with slots and the documents. -/
def Checked (text : List Char) (slots : List (Token PromptSlot))
    (documents : List (List (List (ShellSymbol PromptSlot)))) : Prop :=
  ∃ script tokens, symbols (fragments text) = some script ∧ ShellText.Whole script tokens ∧
    tokens.filter hasSlot = slots ∧ tokens.filterMap ShellText.documentLines = documents

theorem Checked.nil : Checked [] [] [] := ⟨[], [], rfl, rfl, rfl, rfl⟩

theorem Checked.cons {a b : List Char} {slots slots' : List (Token PromptSlot)}
    {documents documents' : List (List (List (ShellSymbol PromptSlot)))}
    (ha : partChecks a slots documents = true) (hb : Checked b slots' documents') :
    Checked (a ++ b) (slots ++ slots') (documents ++ documents') := by
  obtain ⟨script', tokens', hsymbols', hwhole', rfl, rfl⟩ := hb
  simp only [partChecks, Bool.and_eq_true, decide_eq_true_eq] at ha
  obtain ⟨⟨hlast, hodd⟩, hread⟩ := ha
  cases hsymbols : symbols (fragments a) with
  | none =>
    rw [hsymbols] at hread
    cases hread
  | some script =>
    rw [hsymbols] at hread
    dsimp only at hread
    cases hfold : script.foldlM ShellText.Reader.step ShellText.Reader.start with
    | none =>
      rw [hfold] at hread
      cases hread
    | some r =>
      rw [hfold] at hread
      simp only [Bool.and_eq_true, decide_eq_true_eq] at hread
      obtain ⟨⟨hr, rfl⟩, rfl⟩ := hread
      have hwhole : ShellText.Whole script r.tokens.reverse := by
        rw [ShellText.Whole, hfold, List.reverse_reverse, ← hr]
      obtain ⟨line, rfl⟩ := List.getLast?_eq_some_iff.mp hlast
      refine ⟨script ++ script', _, ?_, hwhole.append hwhole', ?_, ?_⟩
      · rw [List.append_assoc, List.singleton_append, fragments_append]
        exact symbols_joined hodd hsymbols hsymbols'
      · rw [List.filter_append]
      · rw [List.filterMap_append]

/-- The template is read in four parts. -/
theorem checked_of_parts {parts : List (List Char)} {a b c d : List (Token PromptSlot)}
    {documents : List (List (List (ShellSymbol PromptSlot)))}
    (ha : partChecks (parts.take 50).flatten a [] = true)
    (hb : partChecks ((parts.drop 50).take 40).flatten b [] = true)
    (hc : partChecks ((parts.drop 90).take 39).flatten c [] = true)
    (hd : partChecks (parts.drop 129).flatten d documents = true) :
    Checked parts.flatten (a ++ b ++ c ++ d) documents := by
  have hparts : parts.flatten = (parts.take 50).flatten ++ (((parts.drop 50).take 40).flatten ++
      (((parts.drop 90).take 39).flatten ++ ((parts.drop 129).flatten ++ []))) := by
    conv_lhs => rw [← List.take_append_drop 50 parts, ← List.take_append_drop 40 (parts.drop 50),
      List.drop_drop, ← List.take_append_drop 39 (parts.drop 90), List.drop_drop]
    simp only [List.flatten_append, List.append_nil]
  have hchecked := Checked.cons ha (.cons hb (.cons hc (.cons hd .nil)))
  simp only [List.append_nil, List.nil_append] at hchecked
  rw [hparts, List.append_assoc, List.append_assoc, List.append_nil]
  exact hchecked

/-- The characters of a string. -/
def Spelled (s : String) (chars : List Char) : Prop := s = String.ofList chars

theorem textOf_spelled {parts : List String} {chars : List (List Char)}
    (h : List.Forall₂ Spelled parts chars) : parts.flatMap String.toList = chars.flatten := by
  induction h with
  | nil => rfl
  | @cons s l _ _ hs _ ih =>
    have hl : s.toList = l := hs ▸ String.toList_ofList
    rw [List.flatMap_cons, List.flatten_cons, ih, hl]

theorem template_spelled : ∃ chars, List.Forall₂ Spelled templateParts chars ∧
    scriptChecks chars.flatten = true ∧
    Checked chars.flatten slotTokens [[[.line .ticketJson]]] := by
  apply Exists.intro
  refine ⟨?_, ?_, ?_⟩
  · dsimp only [templateParts]
    repeat (first | exact .nil | apply List.Forall₂.cons; exact rfl)
  · decide +kernel
  · exact checked_of_parts (a := slotTokens.take 1) (b := (slotTokens.drop 1).take 16) (c := [])
      (d := slotTokens.drop 17) (by decide +kernel) (by decide +kernel) (by decide +kernel)
      (by decide +kernel)

/-- The template is cut at its slots, no line of it ends the script, and every slot is the value of
a variable or the line of the only here-document. -/
theorem template_checked : symbols (fragments templateText) = some template ∧
    ShellText.scanHoles scriptEnds (some []) template = true ∧
    template.getLast? = some (.char '\n') ∧ ShellText.read template = some templateTokens ∧
    templateTokens.filter hasSlot = slotTokens ∧
    templateTokens.filterMap ShellText.documentLines = [[[.line .ticketJson]]] := by
  obtain ⟨chars, hspelled, hchecks, script, tokens, hsymbols, hwhole, hslots, hdocuments⟩ :=
    template_spelled
  have htext : templateText = chars.flatten := textOf_spelled hspelled
  rw [scriptChecks, hsymbols] at hchecks
  simp only [Bool.and_eq_true, decide_eq_true_eq] at hchecks
  have hscript : symbols (fragments templateText) = some script := htext ▸ hsymbols
  have htemplate : template = script := by
    rw [template, hscript, Option.getD_some]
  have htokens : templateTokens = tokens := by
    rw [templateTokens, htemplate, hwhole.read, Option.getD_some]
  rw [htemplate, htokens]
  exact ⟨hscript, hchecks.1, hchecks.2, hwhole.read, hslots, hdocuments⟩

end SessionRouter.Onboarding
