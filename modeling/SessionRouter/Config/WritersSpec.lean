import SessionRouter.Config.Writers
import SessionRouter.Config.Publishable

/-!
If the file is replaced only while it has what was loaded, beside the parts that the update is
about, every update stays in it until a later one competes for the same part. Nothing in the code
makes sure of that.
-/

namespace SessionRouter.Config

open Onboarding (HostPath OnboardingTicket)

section updates

variable [UrlParser] {update : Update} {config next : ConfigFile} {part : Part}

omit [UrlParser] in
theorem mapError_ok {α : Type} {x : Except ConfigError α} {a : α} :
    Except.mapError UpdateError.config x = .ok a ↔ x = .ok a := by
  cases x with
  | ok b =>
    show Except.ok b = _ ↔ _
    rw [Except.ok.injEq, Except.ok.injEq]
  | error e => exact ⟨nofun, nofun⟩

omit [UrlParser] in
theorem map_some_ok {x : Except UpdateError ConfigFile} :
    some <$> x = .ok (some next) ↔ x = .ok next := by
  cases x with
  | ok b =>
    show Except.ok (some b) = _ ↔ _
    rw [Except.ok.injEq, Option.some.injEq, Except.ok.injEq]
  | error e => exact ⟨nofun, nofun⟩

/-- What each update makes of a configuration. -/
theorem change_cases (h : update.change config = .ok (some next)) :
    (∃ name address force url, update = .add name address force ∧
      normalizeRouterUrl address = .ok url ∧ next = { config with
        profiles := config.profiles.put name (.manual (href url)), defaultProfile := some name }) ∨
    (∃ name, update = .use name ∧ next = { config with defaultProfile := some name }) ∨
    (∃ routerUrl, update = .publish routerUrl ∧ next = { config with
      profiles := config.profiles.put deviceProfile (.manual routerUrl) }) ∨
    ∃ ticket provider credentialFile routerUrl routes url,
      update = .bind ticket provider credentialFile routerUrl routes ∧
      normalizeRouterUrl routerUrl = .ok url ∧
      checkBinding config ticket provider credentialFile = .ok () ∧
      next = bound config ticket provider credentialFile (href url) routes := by
  cases update with
  | add name address force =>
    obtain ⟨_, -, h⟩ := Except.bind_ok.mp (map_some_ok.mp h)
    obtain ⟨_, -, h⟩ := Except.bind_ok.mp h
    obtain ⟨_, -, h⟩ := Except.bind_ok.mp h
    obtain ⟨url, hurl, h⟩ := Except.bind_ok.mp h
    exact .inl ⟨name, address, force, url, rfl, mapError_ok.mp hurl, (Except.ok.inj h).symm⟩
  | use name =>
    obtain ⟨_, -, h⟩ := Except.bind_ok.mp (map_some_ok.mp h)
    obtain ⟨_, -, h⟩ := Except.bind_ok.mp h
    exact .inr (.inl ⟨name, rfl, (Except.ok.inj h).symm⟩)
  | publish routerUrl =>
    have h : Update.publishDevice config routerUrl = some next := Except.ok.inj h
    unfold Update.publishDevice at h
    split at h
    · exact absurd h nofun
    · exact .inr (.inr (.inl ⟨routerUrl, rfl, (Option.some.inj h).symm⟩))
  | bind ticket provider credentialFile routerUrl routes =>
    obtain ⟨url, hurl, h⟩ := Except.bind_ok.mp (map_some_ok.mp h)
    obtain ⟨_, hbinding, h⟩ := Except.bind_ok.mp h
    exact .inr (.inr (.inr ⟨ticket, provider, credentialFile, routerUrl, routes, url, rfl,
      mapError_ok.mp hurl, mapError_ok.mp hbinding, (Except.ok.inj h).symm⟩))

/-- An update is in the configuration it makes. -/
theorem change_shows (h : update.change config = .ok (some next)) (hpart : part ∈ update.parts) :
    update.Shows next part := by
  rcases change_cases h with ⟨name, address, force, url, rfl, hurl, rfl⟩ | ⟨name, rfl, rfl⟩ |
    ⟨routerUrl, rfl, rfl⟩ |
    ⟨ticket, provider, credentialFile, routerUrl, routes, url, rfl, hurl, -, rfl⟩
  · cases part with
    | profile other => exact ⟨url, hurl, Table.get?_put_self _ _ _⟩
    | default => rfl
  · rfl
  · exact Table.get?_put_self _ _ _
  · exact ⟨_, url, Table.get?_put_self _ _ _, rfl, hurl, rfl, rfl, Table.get?_put_self _ _ _⟩

/-- An update leaves the parts alone that it does not compete for. -/
theorem change_same (h : update.change config = .ok (some next)) (hpart : part ∉ update.parts) :
    part.Same config next := by
  rcases change_cases h with ⟨name, address, force, url, rfl, -, rfl⟩ | ⟨name, rfl, rfl⟩ |
    ⟨routerUrl, rfl, rfl⟩ |
    ⟨ticket, provider, credentialFile, routerUrl, routes, url, rfl, -, -, rfl⟩
  · cases part with
    | profile other =>
      refine Table.get?_put_ne _ _ fun hname => hpart ?_
      rw [hname]
      exact List.mem_cons_self
    | default => exact absurd (List.mem_cons_of_mem _ List.mem_cons_self) hpart
  · cases part with
    | profile other => rfl
    | default => exact absurd List.mem_cons_self hpart
  · cases part with
    | profile other =>
      refine Table.get?_put_ne _ _ fun hname => hpart ?_
      rw [hname]
      exact List.mem_cons_self
    | default => rfl
  · cases part with
    | profile other =>
      refine Table.get?_put_ne _ _ fun hname => hpart ?_
      rw [hname]
      exact List.mem_cons_self
    | default => rfl

theorem Update.Shows.of_same (h : update.Shows config part) (hpart : part ∈ update.parts)
    (hsame : part.Same config next) : update.Shows next part := by
  cases update with
  | add name address force =>
    rcases List.mem_pair.mp hpart with rfl | rfl
    · obtain ⟨url, hurl, hget⟩ := h
      exact ⟨url, hurl, hsame.trans hget⟩
    · exact hsame.trans h
  | use name =>
    obtain rfl := List.mem_singleton.mp hpart
    exact hsame.trans h
  | publish routerUrl =>
    obtain rfl := List.mem_singleton.mp hpart
    exact hsame.trans h
  | bind ticket provider credentialFile routerUrl routes =>
    obtain rfl := List.mem_singleton.mp hpart
    obtain ⟨profile, url, hget, hrest⟩ := h
    exact ⟨profile, url, hsame.trans hget, hrest⟩

omit [UrlParser] in
theorem binding_parts (h : update.isBinding = true) :
    ∃ name, update.parts = [.profile name] := by
  cases update with
  | add | use | publish => cases h
  | bind ticket => exact ⟨ticket.profileName, rfl⟩

/-- There is a profile of the name, and it belongs to no server. -/
def ConfigFile.Unbound (config : ConfigFile) (name : String) : Prop :=
  ∃ profile, config.profiles.get? name = some profile ∧ profile.serverId = none

/-- Only a binding gives a profile to a server. -/
theorem change_unbound (h : update.change config = .ok (some next))
    (hupdate : update.isBinding = false) {name : String} (hpart : .profile name ∈ update.parts) :
    next.Unbound name := by
  rcases change_cases h with ⟨name', address, force, url, rfl, -, rfl⟩ | ⟨name', rfl, rfl⟩ |
    ⟨routerUrl, rfl, rfl⟩ | ⟨ticket, provider, credentialFile, routerUrl, routes, url, rfl, -, -, -⟩
  · rcases List.mem_pair.mp hpart with heq | heq
    · cases heq
      exact ⟨_, Table.get?_put_self _ _ _, rfl⟩
    · cases heq
  · cases List.mem_singleton.mp hpart
  · cases List.mem_singleton.mp hpart
    exact ⟨_, Table.get?_put_self _ _ _, rfl⟩
  · cases hupdate

/-- A binding is refused for a profile that belongs to no server. -/
theorem change_refused (hupdate : update.isBinding = true) {name : String}
    (hpart : .profile name ∈ update.parts) (hunbound : config.Unbound name) :
    update.change config ≠ .ok (some next) := by
  intro h
  rcases change_cases h with ⟨_, _, _, _, rfl, -, -⟩ | ⟨_, rfl, -⟩ | ⟨_, rfl, -⟩ |
    ⟨ticket, provider, credentialFile, routerUrl, routes, url, rfl, -, hbinding, -⟩
  · cases hupdate
  · cases hupdate
  · cases hupdate
  · cases List.mem_singleton.mp hpart
    obtain ⟨profile, hget, hserver⟩ := hunbound
    unfold checkBinding at hbinding
    rw [hget] at hbinding
    dsimp only at hbinding
    rw [if_pos (by rw [hserver]; nofun)] at hbinding
    cases hbinding

end updates

section runs

variable [UrlParser] {s s' : Shared} {p : ℕ} {w : Writer}

/-- No update that competes with a process took effect since its first file operation. -/
def Writer.Unopposed (w : Writer) (s : Shared) : Prop :=
  ∀ entry ∈ s.published, ∀ part ∈ w.update.parts, part ∈ entry.update.parts →
    entry.published < w.started

/-- The draft of a process is what its update makes of some configuration, and no update that
competes with it took effect between its first file operation and the load of that configuration. -/
structure Writer.Drafted (w : Writer) (s : Shared) (draft : Draft) : Prop where
  version : draft.version ≤ s.published.length
  change : ∃ config, w.update.change config = .ok (some draft.config)
  unopposed : ∀ entry ∈ s.published.drop (s.published.length - draft.version),
    ∀ part ∈ w.update.parts, part ∈ entry.update.parts → entry.published < w.started

/-- What holds of a process at work. A checked binding that has a rival will be refused. -/
structure Writer.Sound (w : Writer) (s : Shared) (p : ℕ) : Prop where
  started : w.started < s.clock
  lock : w.update.isBinding = true → s.lock = some p
  pending : w.phase = .checking ∨ w.phase = .checked → w.update.isBinding = true ∧
    (w.Unopposed s ∨ ∃ name, .profile name ∈ w.update.parts ∧ s.content.Unbound name)
  draft : ∀ draft, w.phase.draft = some draft → w.Drafted s draft
  linked : ∀ entry inode, w.phase = .linked entry inode → entry ∈ s.published
  saved : ∀ entry, w.phase = .saved entry → entry ∈ s.published

/-- What an update put into the file is there, or a later one competed with it. -/
def Kept (s : Shared) (entry : Publication) : Prop :=
  ∀ part ∈ entry.update.parts, entry.update.Shows s.content part ∨
    ∃ later ∈ s.published, entry.published < later.started ∧ part ∈ later.update.parts

structure Shared.Sound (s : Shared) : Prop where
  times : ∀ entry ∈ s.published, entry.published < s.clock
  writers : ∀ p w, s.writers.get? p = some w → w.Sound s p
  succeeded : ∀ entry ∈ s.succeeded, entry ∈ s.published
  kept : ∀ entry ∈ s.published, Kept s entry

/-- A step that does not replace the file. -/
structure Quiet (s s' : Shared) : Prop where
  content : s'.content = s.content
  published : s'.published = s.published
  clock : s.clock ≤ s'.clock

omit [UrlParser] in
theorem Quiet.unopposed (h : Quiet s s') (hw : w.Unopposed s) : w.Unopposed s' := by
  unfold Writer.Unopposed
  rw [h.published]
  exact hw

theorem Writer.Drafted.of_same {v : Writer} {draft : Draft} (h : w.Drafted s draft)
    (hupdate : v.update = w.update) (hstarted : v.started = w.started)
    (hpublished : s'.published = s.published) : v.Drafted s' draft := by
  obtain ⟨hversion, hchange, hunopposed⟩ := h
  rw [← hpublished] at hversion hunopposed
  rw [← hupdate] at hchange hunopposed
  rw [← hstarted] at hunopposed
  exact ⟨hversion, hchange, hunopposed⟩

/-- A draft that has just been made. -/
theorem Writer.Unopposed.drafted {config next : ConfigFile} (h : w.Unopposed s)
    (hchange : w.update.change config = .ok (some next)) :
    w.Drafted s ⟨s.published.length, next⟩ where
  version := le_rfl
  change := ⟨config, hchange⟩
  unopposed entry hentry := h entry (List.mem_of_mem_drop hentry)

/-- Without a rival since the load there is none since the first file operation. -/
theorem Writer.Drafted.now {draft : Draft} (h : w.Drafted s draft)
    (hsince : ∀ entry ∈ s.since draft, ∀ part ∈ w.update.parts, part ∉ entry.update.parts) :
    w.Unopposed s := by
  intro entry hentry part hpart hcompetes
  rw [← List.take_append_drop (s.published.length - draft.version) s.published] at hentry
  rcases List.mem_append.mp hentry with hlate | hearly
  · exact absurd hcompetes (hsince entry hlate part hpart)
  · exact h.unopposed entry hearly part hpart hcompetes

/-- Another update takes effect. -/
theorem Writer.Drafted.later {draft : Draft} {entry : Publication} (h : w.Drafted s draft)
    (hpublished : s'.published = entry :: s.published) : w.Drafted s' draft where
  version := by
    rw [hpublished, List.length_cons]
    exact h.version.trans (Nat.le_succ _)
  change := h.change
  unopposed := by
    rw [hpublished, List.length_cons, Nat.succ_sub h.version, List.drop_succ_cons]
    exact h.unopposed

theorem Quiet.writer (h : Quiet s s') (hw : w.Sound s p)
    (hlock : w.update.isBinding = true → s'.lock = some p) : w.Sound s' p where
  started := hw.started.trans_le h.clock
  lock := hlock
  pending hphase := by
    obtain ⟨hbinding, hrest⟩ := hw.pending hphase
    rw [h.content]
    exact ⟨hbinding, hrest.imp_left h.unopposed⟩
  draft draft hdraft := (hw.draft draft hdraft).of_same rfl rfl h.published
  linked := h.published ▸ hw.linked
  saved := h.published ▸ hw.saved

theorem Shared.Sound.quiet (h : s.Sound) (hquiet : Quiet s s')
    (hsucceeded : ∀ entry ∈ s'.succeeded, entry ∈ s'.published)
    (hwriters : ∀ p w, s'.writers.get? p = some w → w.Sound s' p) : s'.Sound where
  times entry hentry := (h.times entry (hquiet.published ▸ hentry)).trans_le hquiet.clock
  writers := hwriters
  succeeded := hsucceeded
  kept := by
    unfold Kept
    rw [hquiet.content, hquiet.published]
    exact h.kept

/-- One process moves on. -/
theorem Shared.Sound.advance (h : s.Sound) (hquiet : Quiet s s') (hlock : s'.lock = s.lock)
    (hsucceeded : s'.succeeded = s.succeeded) (hwriters : s'.writers = s.writers.put p w)
    (hw : w.Sound s' p) : s'.Sound := by
  refine h.quiet hquiet (by rw [hsucceeded, hquiet.published]; exact h.succeeded) fun q v hv => ?_
  rw [hwriters, Table.get?_put] at hv
  by_cases hq : q = p
  · rw [if_pos hq] at hv
    obtain rfl := Option.some.inj hv
    exact hq ▸ hw
  · rw [if_neg hq] at hv
    exact hquiet.writer (h.writers q v hv) (hlock ▸ (h.writers q v hv).lock)

/-- One process ends. -/
theorem Shared.Sound.leave (h : s.Sound) (hquiet : Quiet s s') (hlock : s'.lock = s.lock)
    (hsucceeded : ∀ entry ∈ s'.succeeded, entry ∈ s.published)
    (hwriters : s'.writers = s.writers.remove p) : s'.Sound := by
  refine h.quiet hquiet (hquiet.published ▸ hsucceeded) fun q v hv => ?_
  rw [hwriters, Table.get?_remove] at hv
  split at hv
  · cases hv
  · exact hquiet.writer (h.writers q v hv) (hlock ▸ (h.writers q v hv).lock)

/-- A process that keeps its draft stays sound. -/
theorem Writer.Sound.drafted {phase : Phase} {draft : Draft} (h : w.Sound s p)
    (hw : w.phase.draft = some draft) (hphase : phase.draft = some draft) :
    Writer.Sound { w with phase } s p where
  started := h.started
  lock := h.lock
  pending hpending := by
    rcases hpending with rfl | rfl
    · cases hphase
    · cases hphase
  draft found hfound := by
    obtain rfl := Option.some.inj (hphase.symm.trans hfound)
    exact (h.draft draft hw).of_same rfl rfl rfl
  linked entry inode hlinked := by
    have : phase = .linked entry inode := hlinked
    rw [this] at hphase
    cases hphase
  saved entry hsaved := by
    have : phase = .saved entry := hsaved
    rw [this] at hphase
    cases hphase

theorem Shared.Sound.redraft (h : s.Sound) (hw : s.writers.get? p = some w) {phase : Phase}
    {draft : Draft} (hdraft : w.phase.draft = some draft) (hphase : phase.draft = some draft) :
    (s.advance p w phase).Sound := by
  have hquiet : Quiet s (s.advance p w phase) := ⟨rfl, rfl, le_rfl⟩
  have hsound := (h.writers p w hw).drafted hdraft hphase
  exact h.advance hquiet rfl rfl rfl (hquiet.writer hsound hsound.lock)

omit [UrlParser] in
theorem unlinked_content (inode : ℕ) : (s.unlinked inode).content = s.content := by
  unfold Shared.unlinked Shared.content
  cases s.file with
  | none => rfl
  | some file =>
    dsimp only [Option.map_some, Option.getD_some]
    split
    · rfl
    · rfl

variable [ConfigEnv]

theorem loadConfig_content {nodes : Nodes} {config : ConfigFile}
    (h : loadConfig (s.disk nodes) = .ok config) : s.content = config := by
  unfold Shared.content
  rcases loadConfig_ok.mp h with ⟨hcontent, rfl⟩ | ⟨hcontent, -⟩
  · have hfile : s.file.map StoredConfig.config = none := Except.ok.inj hcontent
    rw [hfile]
    rfl
  · have hfile : s.file.map StoredConfig.config = some config := Except.ok.inj hcontent
    rw [hfile]
    rfl

omit [ConfigEnv] in
/-- The file is replaced in time: what was there stays, or the new update competed with it. -/
theorem Shared.Sound.store (h : s.Sound) (hw : s.writers.get? p = some w) {draft : Draft}
    (hdraft : w.phase.draft = some draft)
    (hsince : ∀ entry ∈ s.since draft, ∀ part ∈ w.update.parts, part ∉ entry.update.parts)
    (hsame : ∀ part, part ∉ w.update.parts → part.Same s.content draft.config)
    {inode links : ℕ} {phase : Publication → Phase}
    (hphase : ∀ entry, phase entry = .saved entry ∨ ∃ inode, phase entry = .linked entry inode) :
    (s.store p w ⟨inode, links, draft.config.current⟩ phase).Sound := by
  have hwriter := h.writers p w hw
  have hunopposed := (hwriter.draft draft hdraft).now hsince
  obtain ⟨config, hchange⟩ := (hwriter.draft draft hdraft).change
  have hcurrent : ∀ part : Part, part.Same draft.config draft.config.current := by
    intro part
    cases part with
    | profile name => rfl
    | default => rfl
  have hcontent : (s.store p w ⟨inode, links, draft.config.current⟩ phase).content =
      draft.config.current := rfl
  refine ⟨fun entry hentry => ?_, fun q v hv => ?_, fun entry hentry => ?_, fun entry hentry => ?_⟩
  · rcases List.mem_cons.mp hentry with rfl | hentry
    · exact Nat.lt_succ_self _
    · exact (h.times entry hentry).trans (Nat.lt_succ_self _)
  · have hv : (s.writers.put p _).get? q = some v := hv
    rw [Table.get?_put] at hv
    by_cases hq : q = p
    · rw [if_pos hq] at hv
      obtain rfl := Option.some.inj hv
      subst hq
      refine ⟨hwriter.started.trans (Nat.lt_succ_self _), hwriter.lock, fun hpending => ?_,
        fun found hfound => ?_, fun entry inode hlinked => ?_, fun entry hsaved => ?_⟩
      · dsimp only at hpending
        rcases hphase ⟨w.update, w.started, s.clock⟩ with heq | ⟨_, heq⟩ <;>
          rw [heq] at hpending <;>
          rcases hpending with hpending | hpending <;> cases hpending
      · dsimp only at hfound
        rcases hphase ⟨w.update, w.started, s.clock⟩ with heq | ⟨_, heq⟩ <;> rw [heq] at hfound <;>
          cases hfound
      · dsimp only at hlinked
        rcases hphase ⟨w.update, w.started, s.clock⟩ with heq | ⟨_, heq⟩ <;> rw [heq] at hlinked <;>
          cases hlinked
        exact List.mem_cons_self
      · dsimp only at hsaved
        rcases hphase ⟨w.update, w.started, s.clock⟩ with heq | ⟨_, heq⟩ <;> rw [heq] at hsaved <;>
          cases hsaved
        exact List.mem_cons_self
    · rw [if_neg hq] at hv
      have hsound := h.writers q v hv
      refine ⟨hsound.started.trans (Nat.lt_succ_self _), hsound.lock, fun hpending => ?_,
        fun found hfound => ?_, fun entry inode hlinked => ?_, fun entry hsaved => ?_⟩
      · obtain ⟨hbinding, hrest⟩ := hsound.pending hpending
        have hother : w.update.isBinding = false := by
          by_contra hno
          have hlocks := (hsound.lock hbinding).symm.trans
            (hwriter.lock (Bool.not_eq_false _ ▸ hno))
          exact hq (Option.some.inj hlocks)
        obtain ⟨name, hparts⟩ := binding_parts hbinding
        refine ⟨hbinding, ?_⟩
        by_cases hrival : .profile name ∈ w.update.parts
        · exact .inr ⟨name, hparts ▸ List.mem_cons_self, change_unbound hchange hother hrival⟩
        have hsame := hsame (.profile name) hrival
        rcases hrest with hrest | ⟨name', hpart, profile, hget, hserver⟩
        · refine .inl fun entry hentry part hpart hcompetes => ?_
          rcases List.mem_cons.mp hentry with rfl | hentry
          · rw [hparts, List.mem_singleton] at hpart
            exact absurd (hpart ▸ hcompetes) hrival
          · exact hrest entry hentry part hpart hcompetes
        · have hname : name' = name := by
            rw [hparts, List.mem_singleton] at hpart
            exact Part.profile.inj hpart
          refine .inr ⟨name', hpart, profile, ?_, hserver⟩
          subst hname
          exact Eq.trans hsame hget
      · exact (hsound.draft found hfound).later rfl
      · exact List.mem_cons_of_mem _ (hsound.linked entry inode hlinked)
      · exact List.mem_cons_of_mem _ (hsound.saved entry hsaved)
  · exact List.mem_cons_of_mem _ (h.succeeded entry hentry)
  · intro part hpart
    rw [hcontent]
    rcases List.mem_cons.mp hentry with rfl | hentry
    · exact .inl ((change_shows hchange hpart).of_same hpart (hcurrent part))
    by_cases hrival : part ∈ w.update.parts
    · exact .inr ⟨_, List.mem_cons_self, hunopposed entry hentry part hrival hpart, hrival⟩
    rcases h.kept entry hentry part hpart with hshows | ⟨later, hlater, hafter, hcompetes⟩
    · exact .inl ((hshows.of_same hpart (hsame part hrival)).of_same hpart (hcurrent part))
    · exact .inr ⟨later, List.mem_cons_of_mem _ hlater, hafter, hcompetes⟩

variable [Onboarding.JournalEnv]

theorem Shared.Sound.step {a : Action} (h : s.Sound) (htimely : Timely s a)
    (hstep : Step s a s') : s'.Sound := by
  -- a process whose first file operation is this step has no rival yet
  have hfirst : ∀ {update phase}, Writer.Unopposed ⟨update, s.clock, phase⟩ s :=
    fun entry hentry _ _ _ => h.times entry hentry
  cases hstep with
  | acquire p hfree =>
    have hquiet : Quiet s { s with lock := some p } := ⟨rfl, rfl, le_rfl⟩
    refine h.quiet hquiet h.succeeded fun q v hv =>
      hquiet.writer (h.writers q v hv) fun hbinding => ?_
    have hlock := (h.writers q v hv).lock hbinding
    rw [hfree] at hlock
    cases hlock
  | release p hheld hidle =>
    have hquiet : Quiet s { s with lock := none } := ⟨rfl, rfl, le_rfl⟩
    refine h.quiet hquiet h.succeeded fun q v hv =>
      hquiet.writer (h.writers q v hv) fun hbinding => ?_
    have hlock := (h.writers q v hv).lock hbinding
    obtain rfl : p = q := Option.some.inj (hheld.symm.trans hlock)
    have hv : s.writers.get? p = some v := hv
    rw [hidle] at hv
    cases hv
  | start hidle hupdate hload hchange =>
    refine h.advance ⟨rfl, rfl, Nat.le_succ _⟩ rfl rfl rfl
      ⟨Nat.lt_succ_self _, ?_, ?_, ?_, fun _ _ h => (by cases h), fun _ h => (by cases h)⟩
    · intro hbinding
      rw [hupdate] at hbinding
      cases hbinding
    · rintro (hphase | hphase)
      · cases hphase
      · cases hphase
    · rintro draft hdraft
      obtain rfl := Option.some.inj hdraft
      exact (Writer.Unopposed.drafted (w := ⟨_, s.clock, .checking⟩) hfirst hchange).of_same
        rfl rfl rfl
  | startIdle => exact h
  | startBinding routerUrl routes hidle hlock hcheck =>
    exact h.advance ⟨rfl, rfl, Nat.le_succ _⟩ rfl rfl rfl
      ⟨Nat.lt_succ_self _, fun _ => hlock, fun _ => ⟨rfl, .inl hfirst⟩,
        fun _ h => (by cases h), fun _ _ h => (by cases h), fun _ h => (by cases h)⟩
  | probe hw hphase hidentity =>
    have hsound := h.writers _ _ hw
    exact h.advance ⟨rfl, rfl, le_rfl⟩ rfl rfl rfl
      ⟨hsound.started, hsound.lock, fun _ => hsound.pending (.inl hphase),
        fun _ h => (by cases h), fun _ _ h => (by cases h), fun _ h => (by cases h)⟩
  | @load p w _ _ _ _ _ _ _ _ _ next hw hphase hupdate hroutes hload hchange =>
    have hsound := h.writers _ _ hw
    obtain ⟨hbinding, hrest⟩ := hsound.pending (.inr hphase)
    rw [← loadConfig_content hload] at hchange
    have hunopposed : w.Unopposed s := by
      rcases hrest with hrest | ⟨name, hpart, hunbound⟩
      · exact hrest
      · exact absurd hchange (change_refused hbinding hpart hunbound)
    refine h.advance ⟨rfl, rfl, le_rfl⟩ rfl rfl rfl
      ⟨hsound.started, hsound.lock, ?_, ?_, fun _ _ h => (by cases h), fun _ h => (by cases h)⟩
    · rintro (hphase | hphase)
      · cases hphase
      · cases hphase
    · rintro draft hdraft
      obtain rfl := Option.some.inj hdraft
      exact (hunopposed.drafted hchange).of_same rfl rfl rfl
  | examine hw hphase hvalid hidentity =>
    exact h.redraft hw (by rw [hphase]; rfl) rfl
  | write hw hphase hsize hinode =>
    exact h.redraft hw (by rw [hphase]; rfl) rfl
  | compare hw hphase hidentity =>
    exact h.redraft hw (by rw [hphase]; rfl) rfl
  | @replace p w draft _ _ hw hphase =>
    have hdraft : w.phase.draft = some draft := by rw [hphase]; rfl
    obtain ⟨hsince, hsame⟩ := htimely _ _ hw hdraft
    exact h.store hw hdraft hsince hsame fun entry => .inl rfl
  | @link p w draft _ hw hphase hfile =>
    have hdraft : w.phase.draft = some draft := by rw [hphase]; rfl
    obtain ⟨hsince, hsame⟩ := htimely _ _ hw hdraft
    exact h.store hw hdraft hsince hsame fun entry => .inr ⟨_, rfl⟩
  | @unlink p w entry inode hw hphase =>
    have hsound := h.writers _ _ hw
    have hquiet : Quiet s ((s.unlinked inode).advance p w (.saved entry)) :=
      ⟨unlinked_content inode, rfl, le_rfl⟩
    refine h.advance hquiet rfl rfl rfl
      ⟨hsound.started, hsound.lock, ?_, fun _ h => (by cases h), fun _ _ h => (by cases h),
        fun found hfound => ?_⟩
    · rintro (hphase | hphase)
      · cases hphase
      · cases hphase
    · cases hfound
      exact hsound.linked entry inode hphase
  | finish hw hphase =>
    refine h.leave ⟨rfl, rfl, le_rfl⟩ rfl (fun entry hentry => ?_) rfl
    rcases List.mem_cons.mp hentry with rfl | hentry
    · exact (h.writers _ _ hw).saved _ hphase
    · exact h.succeeded entry hentry
  | fail hw => exact h.leave ⟨rfl, rfl, le_rfl⟩ rfl h.succeeded rfl
  | @failLinked p w entry inode hw hphase =>
    have hquiet : Quiet s ((s.unlinked inode).leave p) := ⟨unlinked_content inode, rfl, le_rfl⟩
    exact h.leave hquiet rfl h.succeeded rfl

/-- The file as it is when no process has begun to work on it. -/
structure Shared.Initial (s : Shared) : Prop where
  writers : s.writers = ∅
  published : s.published = []
  succeeded : s.succeeded = []

omit [ConfigEnv] [Onboarding.JournalEnv] in
theorem Shared.Initial.sound (h : s.Initial) : s.Sound := by
  refine ⟨?_, ?_, ?_, ?_⟩
  · rw [h.published]
    nofun
  · intro p w hw
    rw [h.writers, Table.get?_empty] at hw
    cases hw
  · rw [h.succeeded]
    nofun
  · rw [h.published]
    nofun

/-- In a run that replaces the file only while it has what was loaded, beside the parts that the
update is about, every update that succeeded is in it until a later one on the same part takes
effect. -/
theorem updates_kept_of_timely {first : Shared} (hfirst : first.Initial)
    (hrun : Relation.ReflTransGen (fun s s' => ∃ a, Timely s a ∧ Step s a s') first s) :
    ∀ entry ∈ s.succeeded, Kept s entry := by
  have hsound : s.Sound := by
    induction hrun with
    | refl => exact hfirst.sound
    | tail _ hstep ih =>
      obtain ⟨a, htimely, hstep⟩ := hstep
      exact ih.step htimely hstep
  exact fun entry hentry => hsound.kept entry (hsound.succeeded entry hentry)

end runs

namespace Sample

def solo : OnboardingTicket := { ticket with routes := [good] }

def soloStored : List StoredOnboardingRoute :=
  [{ kind := .lan, routerUrl := "wss://10.0.0.2/ws", caFile := none }]

def goodUrl : Url := readUrl.plainUrl "wss" (.ipv4 10 0 0 2) none

/-- An empty configuration that nobody works on. -/
def quiet : Shared where
  file := some ⟨1, 1, .fresh⟩
  lock := none
  clock := 0
  writers := ∅
  published := []
  succeeded := []

def adding : Update := .add "home" good.routerUrl false

def binding : Update := .bind solo .codexCli credentialFile good.routerUrl soloStored

def added : ConfigFile :=
  { ConfigFile.fresh with
    profiles := ConfigFile.fresh.profiles.put "home" (.manual (href goodUrl))
    defaultProfile := some "home" }

def boundSolo : ConfigFile :=
  bound .fresh solo .codexCli credentialFile (href goodUrl) soloStored

theorem solo_valid : normalizeRouterUrl good.routerUrl = .ok goodUrl ∧
    checkStoredRoutes disk.nodes solo good.routerUrl soloStored = .ok goodUrl ∧
    validateConfig disk.nodes boundSolo = .ok () ∧ validateConfig disk.nodes added = .ok () := by
  decide +kernel

theorem adding_change : adding.change .fresh = .ok (some added) := by
  have hadd : Update.addProfile .fresh "home" good.routerUrl false = .ok added := by
    unfold Update.addProfile
    rw [solo_valid.1]
    rfl
  show some <$> Update.addProfile _ _ _ _ = _
  rw [hadd]
  rfl

theorem binding_change : binding.change .fresh = .ok (some boundSolo) := by
  have hbind : Update.bindProfile .fresh solo .codexCli credentialFile good.routerUrl soloStored =
      .ok boundSolo := by
    unfold Update.bindProfile
    rw [solo_valid.1]
    rfl
  show some <$> Update.bindProfile _ _ _ _ _ _ = _
  rw [hbind]
  rfl

theorem solo_checked : checkOnboardingBinding (quiet.disk disk.nodes) solo .codexCli
    credentialFile = .ok () :=
  checkOnboardingBinding_ok.mpr ⟨by decide +kernel, rfl, by decide +kernel, .fresh,
    loadConfig_ok.mpr (.inr ⟨rfl, rfl⟩), rfl, rfl, ⟨none, rfl⟩, rfl⟩

theorem fresh_loaded {s : Shared} (h : s.file = some ⟨1, 1, .fresh⟩) :
    loadConfig (s.disk disk.nodes) = .ok .fresh := by
  refine loadConfig_ok.mpr (.inr ⟨?_, rfl⟩)
  unfold Shared.disk
  rw [h]
  rfl

/-- The update of the first process and the binding, when both are published. -/
def addEntry : Publication := ⟨adding, 0, 3⟩

def bindEntry : Publication := ⟨binding, 1, 2⟩

def adder (phase : Phase) : Writer := ⟨adding, 0, phase⟩

def binder (phase : Phase) : Writer := ⟨binding, 1, phase⟩

/-- Both processes are at work, the installer holds the lock. -/
def both (a b : Phase) : Shared :=
  { quiet with
    lock := some 2, clock := 2
    writers := ((∅ : Table ℕ Writer).put 1 (adder a)).put 2 (binder b) }

/-- The same after the binding took effect. -/
def boundBoth (a b : Phase) : Shared :=
  { both a b with
    file := some ⟨3, 1, boundSolo.current⟩, clock := 3, published := [bindEntry] }

/-- The installer has returned. -/
def boundOne (a : Phase) : Shared :=
  { boundBoth a .checking with
    writers := (∅ : Table ℕ Writer).put 1 (adder a), succeeded := [bindEntry] }

/-- The other process, which never saw the binding, has replaced the file. -/
def lost : Shared where
  file := some ⟨4, 1, added.current⟩
  lock := some 2
  clock := 4
  writers := (∅ : Table ℕ Writer).put 1 (adder (.saved addEntry))
  published := [addEntry, bindEntry]
  succeeded := [bindEntry]

theorem unused_inode {s : Shared} {inode : ℕ}
    (hfile : ∀ file, s.file = some file → file.inode ≠ inode)
    (hwriters : ∀ entry ∈ s.writers.toList, entry.2.phase.inode ≠ some inode) : s.Unused inode := by
  refine ⟨hfile, fun p w hw => ?_⟩
  exact hwriters (p, w) ((Table.mem_toList _ _ _).mpr hw)

/-- The binding is published while the other process still has its draft. -/
theorem run_bound : Relation.ReflTransGen (fun s s' => ∃ a, Timely s a ∧ Step s a s') quiet
    (boundOne (.loaded ⟨0, added⟩)) := by
  have h1 : Step quiet (.acquire 2) { quiet with lock := some 2 } := .acquire 2 rfl
  have h2 : Step { quiet with lock := some 2 } (.start 1) { quiet with
      lock := some 2, clock := 1
      writers := (∅ : Table ℕ Writer).put 1 (adder (.loaded ⟨0, added⟩)) } :=
    .start rfl rfl (fresh_loaded rfl) adding_change
  have h3 : Step { quiet with
      lock := some 2, clock := 1
      writers := (∅ : Table ℕ Writer).put 1 (adder (.loaded ⟨0, added⟩)) } (.start 2)
      (both (.loaded ⟨0, added⟩) .checking) := .startBinding _ _ rfl rfl solo_checked
  have h4 : Step (both (.loaded ⟨0, added⟩) .checking) (.probe 2)
      (both (.loaded ⟨0, added⟩) .checked) :=
    .probe (w := binder .checking) rfl rfl rfl
  have h5 : Step (both (.loaded ⟨0, added⟩) .checked) (.load 2)
      (both (.loaded ⟨0, added⟩) (.loaded ⟨0, boundSolo⟩)) :=
    .load (w := binder .checked) rfl rfl rfl solo_valid.2.1 (fresh_loaded rfl) binding_change
  have h6 : Step (both (.loaded ⟨0, added⟩) (.loaded ⟨0, boundSolo⟩)) (.examine 2)
      (both (.loaded ⟨0, added⟩) (.examined ⟨0, boundSolo⟩ (some 1))) :=
    .examine (w := binder (.loaded ⟨0, boundSolo⟩)) rfl rfl solo_valid.2.2.1 rfl
  have h7 : Step (both (.loaded ⟨0, added⟩) (.examined ⟨0, boundSolo⟩ (some 1))) (.write 2)
      (both (.loaded ⟨0, added⟩) (.written ⟨0, boundSolo⟩ (some 1) 3)) :=
    .write (w := binder (.examined ⟨0, boundSolo⟩ (some 1))) rfl rfl (by decide)
      (unused_inode (by rintro _ ⟨⟩; decide) (by decide))
  have h8 : Step (both (.loaded ⟨0, added⟩) (.written ⟨0, boundSolo⟩ (some 1) 3)) (.compare 2)
      (both (.loaded ⟨0, added⟩) (.compared ⟨0, boundSolo⟩ (some 1) 3)) :=
    .compare (w := binder (.written ⟨0, boundSolo⟩ (some 1) 3)) rfl rfl rfl
  have h9 : Step (both (.loaded ⟨0, added⟩) (.compared ⟨0, boundSolo⟩ (some 1) 3)) (.replace 2)
      (boundBoth (.loaded ⟨0, added⟩) (.saved bindEntry)) :=
    .replace (w := binder (.compared ⟨0, boundSolo⟩ (some 1) 3)) rfl rfl
  have h10 : Step (boundBoth (.loaded ⟨0, added⟩) (.saved bindEntry)) (.finish 2)
      (boundOne (.loaded ⟨0, added⟩)) := .finish (w := binder (.saved bindEntry)) rfl rfl
  have htimely : Timely (both (.loaded ⟨0, added⟩) (.compared ⟨0, boundSolo⟩ (some 1) 3))
      (.replace 2) := by
    intro w draft hw hdraft
    cases hw
    cases hdraft
    exact ⟨nofun, fun part hpart => change_same binding_change hpart⟩
  exact (((((((((Relation.ReflTransGen.single ⟨.acquire 2, trivial, h1⟩).tail
    ⟨.start 1, trivial, h2⟩).tail ⟨.start 2, trivial, h3⟩).tail ⟨.probe 2, trivial, h4⟩).tail
    ⟨.load 2, trivial, h5⟩).tail ⟨.examine 2, trivial, h6⟩).tail ⟨.write 2, trivial, h7⟩).tail
    ⟨.compare 2, trivial, h8⟩).tail ⟨_, htimely, h9⟩).tail ⟨.finish 2, trivial, h10⟩

theorem run_lost : Relation.ReflTransGen (fun s s' => ∃ a, Step s a s') quiet lost := by
  have h11 : Step (boundOne (.loaded ⟨0, added⟩)) (.examine 1)
      (boundOne (.examined ⟨0, added⟩ (some 3))) :=
    .examine (w := adder (.loaded ⟨0, added⟩)) rfl rfl solo_valid.2.2.2 rfl
  have h12 : Step (boundOne (.examined ⟨0, added⟩ (some 3))) (.write 1)
      (boundOne (.written ⟨0, added⟩ (some 3) 4)) :=
    .write (w := adder (.examined ⟨0, added⟩ (some 3))) rfl rfl (by decide)
      (unused_inode (by rintro _ ⟨⟩; decide) (by decide))
  have h13 : Step (boundOne (.written ⟨0, added⟩ (some 3) 4)) (.compare 1)
      (boundOne (.compared ⟨0, added⟩ (some 3) 4)) :=
    .compare (w := adder (.written ⟨0, added⟩ (some 3) 4)) rfl rfl rfl
  have h14 : Step (boundOne (.compared ⟨0, added⟩ (some 3) 4)) (.replace 1) lost :=
    .replace (w := adder (.compared ⟨0, added⟩ (some 3) 4)) rfl rfl
  have hfirst : Relation.ReflTransGen (fun s s' => ∃ a, Step s a s') quiet
      (boundOne (.loaded ⟨0, added⟩)) :=
    Relation.ReflTransGen.mono (fun _ _ ⟨a, _, hstep⟩ => ⟨a, hstep⟩) _ _ run_bound
  exact (((hfirst.tail ⟨_, h11⟩).tail ⟨_, h12⟩).tail ⟨_, h13⟩).tail ⟨_, h14⟩

theorem quiet_initial : quiet.Initial := ⟨rfl, rfl, rfl⟩

end Sample

open Sample in
/-- A profile is added while a binding is published: the binding succeeded and is gone. -/
theorem binding_lost : quiet.Initial ∧
    Relation.ReflTransGen (fun s s' => ∃ a, Step s a s') quiet lost ∧
    bindEntry ∈ lost.succeeded ∧ ¬ Kept lost bindEntry := by
  refine ⟨quiet_initial, run_lost, List.mem_cons_self, fun hkept => ?_⟩
  rcases hkept (.profile solo.profileName) List.mem_cons_self with
    hshows | ⟨later, hlater, hafter, -⟩
  · obtain ⟨profile, url, hget, -⟩ := hshows
    have hnone : lost.content.profiles.get? solo.profileName = none := by decide +kernel
    rw [hnone] at hget
    cases hget
  · rcases List.mem_pair.mp hlater with rfl | rfl
    · exact absurd hafter (by decide)
    · exact absurd hafter (by decide)

open Sample in
theorem updates_kept_of_timely_bound : Kept (boundOne (.loaded ⟨0, added⟩)) bindEntry :=
  updates_kept_of_timely quiet_initial run_bound bindEntry List.mem_cons_self

end SessionRouter.Config
