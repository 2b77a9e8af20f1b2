import SessionRouter.Launcher.Native

/-!
Every mapping that the launcher enabled is named by the record on disk, as long as a command that a
start-up left behind takes effect before the next snapshot is taken.
-/

namespace SessionRouter.Launcher

open Call Device

/-- What the launcher had to know held. -/
def Event.Justified : Event → Prop
  | launched record => record = none
  | enabled serve latest => ∃ s, latest = some s ∧ s.tcpForwards serve.port = none
  | disabled serve target record => target = some serve.target ∧
      ∃ current, record = some current ∧ current.ownedServe = some serve

/-- A record names the mapping of a port. -/
def RuntimeRecord.Names (record : RuntimeRecord) (port : ℕ) (target : String) (id : Uuid) : Prop :=
  record.instanceId = id ∧ record.ownedServe = some ⟨id, port, target⟩

namespace Device

/-- Every mapping that the launcher enabled is named by the record on disk. -/
def Owned (w : Device) : Prop := ∀ port m id, w.serve port = some m → m.owner = some id →
  ∃ record, w.disk = some record ∧ record.Names port m.target id

/-- No mapping in effect was enabled by the launcher, and none is still to be. -/
def Bare (w : Device) : Prop :=
  w.background = [] ∧ ∀ port m, w.serve port = some m → m.owner = none

structure Sound (w : Device) : Prop where
  owned : w.Owned
  background : ∀ serve ∈ w.background, ∃ record, w.disk = some record ∧
    record.Names serve.port serve.target serve.instanceId
  log : ∀ e ∈ w.log, e.Justified
  used : ∀ record, w.disk = some record → record.instanceId ∈ w.used
  waiting : ∀ record ∈ w.waiting, record.instanceId ∈ w.used ∧ ∀ current, w.disk = some current →
    current.instanceId = record.instanceId → current.ownedServe = record.ownedServe

/-- Nothing happened to what a call of the launcher has found or done. -/
structure Still (w w' : Device) : Prop where
  disk : w'.disk = w.disk
  used : w'.used = w.used
  waiting : w'.waiting = w.waiting
  background : w.background = [] → w'.background = []
  bare : w.Bare → w'.Bare
  named : w.background = [] → ∀ record serve, w.disk = some record →
    record.ownedServe = some serve → w'.serve serve.port = w.serve serve.port

/-- No snapshot was taken, either. -/
structure Calm (w w' : Device) : Prop extends Still w w' where
  latest : w'.latest = w.latest

theorem Still.refl (w : Device) : Still w w :=
  ⟨rfl, rfl, rfl, fun h => h, fun h => h, fun _ _ _ _ _ => rfl⟩

theorem Calm.refl (w : Device) : Calm w w := ⟨.refl w, rfl⟩

theorem Still.trans {w w' w'' : Device} (h : Still w w') (h' : Still w' w'') : Still w w'' where
  disk := h'.disk.trans h.disk
  used := h'.used.trans h.used
  waiting := h'.waiting.trans h.waiting
  background hw := h'.background (h.background hw)
  bare hw := h'.bare (h.bare hw)
  named hw record serve hdisk hserve := by
    rw [h'.named (h.background hw) record serve (h.disk.trans hdisk) hserve,
      h.named hw record serve hdisk hserve]

theorem Calm.trans {w w' w'' : Device} (h : Calm w w') (h' : Calm w' w'') : Calm w w'' :=
  ⟨h.toStill.trans h'.toStill, h'.latest.trans h.latest⟩

/-- The record on disk is that of the instance, with the same mapping. -/
def Holds (record : RuntimeRecord) (w : Device) : Prop := ∃ current, w.disk = some current ∧
  current.instanceId = record.instanceId ∧ current.ownedServe = record.ownedServe

theorem Holds.of_disk {w w' : Device} {record : RuntimeRecord} (h : Holds record w)
    (hdisk : w'.disk = w.disk) : Holds record w' := by
  unfold Holds
  rw [hdisk]
  exact h

theorem Still.holds {w w' : Device} {record : RuntimeRecord} (h : Still w w')
    (hholds : Holds record w) : Holds record w' := hholds.of_disk h.disk

theorem bare_of_none {w : Device} (h : w.Sound) (hdisk : w.disk = none) : w.Bare := by
  refine ⟨List.eq_nil_iff_forall_not_mem.mpr fun serve hserve => ?_, fun port m hm => ?_⟩
  · obtain ⟨record, hrecord, -⟩ := h.background serve hserve
    rw [hdisk] at hrecord
    cases hrecord
  cases howner : m.owner with
  | none => rfl
  | some id =>
    obtain ⟨record, hrecord, -⟩ := h.owned port m id hm howner
    rw [hdisk] at hrecord
    cases hrecord

theorem owned_of_bare {w : Device} (h : w.Bare) : w.Owned := by
  intro port m id hm howner
  rw [h.2 port m hm] at howner
  cases howner

theorem change_sound {w w' : Device} (h : w.Sound) (hchange : Change w w') :
    w'.Sound ∧ Calm w w' := by
  cases hchange with
  | @other port mapping hnew hold hrecord =>
    have hat : ∀ {q m}, (w.map port mapping).serve q = some m →
        q = port ∧ mapping = some m ∨ q ≠ port ∧ w.serve q = some m := by
      intro q m hm
      unfold map at hm
      dsimp only at hm
      by_cases hq : q = port
      · subst hq
        rw [Function.update_self] at hm
        exact .inl ⟨rfl, hm⟩
      · rw [Function.update_of_ne hq] at hm
        exact .inr ⟨hq, hm⟩
    refine ⟨⟨?_, h.background, h.log, h.used, h.waiting⟩, ⟨rfl, rfl, rfl, id, ?_, ?_⟩, rfl⟩
    · intro q m id hm howner
      rcases hat hm with ⟨-, hmapping⟩ | ⟨-, hm⟩
      · rw [hnew m hmapping] at howner
        cases howner
      · exact h.owned q m id hm howner
    · intro hbare
      refine ⟨hbare.1, fun q m hm => ?_⟩
      rcases hat hm with ⟨-, hmapping⟩ | ⟨-, hm⟩
      · exact hnew m hmapping
      · exact hbare.2 q m hm
    · intro _ record serve hdisk hserve
      exact Function.update_of_ne (hrecord record serve hdisk hserve) _ _
  | @late serve hmem =>
    -- the record on disk names the mapping that the command was to enable
    have hbusy : w.background ≠ [] := List.ne_nil_of_mem hmem
    refine ⟨⟨fun port m id hm howner => ?_, fun other hother =>
      h.background other (List.mem_of_mem_erase hother), h.log, h.used, h.waiting⟩,
      ⟨rfl, rfl, rfl, fun hnone => absurd hnone hbusy, fun hbare => absurd hbare.1 hbusy,
        fun hnone => absurd hnone hbusy⟩, rfl⟩
    have hm : Function.update w.serve serve.port _ port = some m := hm
    by_cases hport : port = serve.port
    · rw [hport, Function.update_self] at hm
      obtain rfl := Option.some.inj hm
      obtain rfl := Option.some.inj howner
      exact hport ▸ h.background serve hmem
    · rw [Function.update_of_ne hport] at hm
      exact h.owned port m id hm howner

theorem meanwhile_sound {w w' : Device} (h : w.Sound)
    (hchange : Relation.ReflTransGen Change w w') : w'.Sound ∧ Calm w w' := by
  induction hchange with
  | refl => exact ⟨h, .refl w⟩
  | tail _ hone ih =>
    obtain ⟨hsound, hstill⟩ := ih
    obtain ⟨hsound', hstill'⟩ := change_sound hsound hone
    exact ⟨hsound', hstill.trans hstill'⟩

/-- The mapping that a start has planned: its port was unused in the latest snapshot. -/
def Planned (id : Uuid) (serve : Option OwnedServe) (w : Device) : Prop :=
  ∀ found, serve = some found → found.instanceId = id ∧
    ∃ s, w.latest = some s ∧ s.tcpForwards found.port = none

theorem Calm.planned {w w' : Device} {id : Uuid} {serve : Option OwnedServe} (h : Calm w w')
    (hplan : Planned id serve w) : Planned id serve w' := by
  intro found hfound
  rw [h.latest]
  exact hplan found hfound

end Device

section calls

variable [UrlParser] {α β : Type} {w w' : Device} {I : Device → Prop}

/-- An answer in a run that keeps to the condition. -/
def TimelyAnswers (w : Device) (o : Op) (r : Reply) (w' : Device) : Prop :=
  Answers w o r w' ∧ Timely w o r w'

/-- A call keeps `I`, and its result and its error meet the postcondition. -/
abbrev Meets (I : Device → Prop) (p : Call α) (post : Except LaunchError α → Device → Prop)
    (w : Device) : Prop := Prog.Safe TimelyAnswers I post p w

theorem Meets.bind {p : Call α} {f : α → Call β} {mid : Except LaunchError α → Device → Prop}
    {post : Except LaunchError β → Device → Prop} (hw : I w) (h : Meets I p mid w)
    (hok : ∀ a w', I w' → mid (.ok a) w' → Meets I (f a) post w')
    (herror : ∀ e w', I w' → mid (.error e) w' → post (.error e) w') :
    Meets I (p >>= f) post w := by
  refine Prog.Safe.bind hw h fun r w' hw' hr => ?_
  cases r with
  | ok a => exact hok a w' hw' hr
  | error e => exact herror e w' hw' hr

theorem Meets.mono {p : Call α} {post post' : Except LaunchError α → Device → Prop} (hw : I w)
    (h : Meets I p post w) (hpost : ∀ r w', I w' → post r w' → post' r w') : Meets I p post' w :=
  Prog.Safe.mono hw h hpost

/-- A call that is gone on from, whatever its outcome is. -/
theorem Meets.attempt {p : Call α} {f : Except LaunchError α → Call β}
    {mid : Except LaunchError α → Device → Prop} {post : Except LaunchError β → Device → Prop}
    (hw : I w) (h : Meets I p mid w)
    (hf : ∀ r w', I w' → mid r w' → Meets I (f r) post w') :
    Meets I (Call.attempt p >>= f) post w := by
  have hattempt : Meets I (Call.attempt p)
      (fun r w' => ∃ outcome, r = .ok outcome ∧ mid outcome w') w :=
    Prog.Safe.bind hw h fun outcome _ _ hr => ⟨outcome, rfl, hr⟩
  refine Meets.bind hw hattempt (fun r w' hw' hr => ?_) fun e w' _ hr => ?_
  · obtain ⟨outcome, heq, hmid⟩ := hr
    cases heq
    exact hf _ w' hw' hmid
  · obtain ⟨outcome, heq, -⟩ := hr
    cases heq

theorem Meets.require {b : Bool} {e : LaunchError} {f : Unit → Call β}
    {post : Except LaunchError β → Device → Prop} (htrue : b = true → Meets I (f ()) post w)
    (hfalse : b = false → post (.error e) w) : Meets I (Call.require b e >>= f) post w := by
  cases b with
  | true => exact htrue rfl
  | false => exact hfalse rfl

theorem Meets.ofExcept {x : Except LaunchError α} {f : α → Call β}
    {post : Except LaunchError β → Device → Prop} (hok : ∀ a, x = .ok a → Meets I (f a) post w)
    (herror : ∀ e, x = .error e → post (.error e) w) :
    Meets I (Call.ofExcept x >>= f) post w := by
  cases x with
  | ok a => exact hok a rfl
  | error e => exact herror e rfl

/-- What is known after an operation was asked for. -/
theorem Meets.ask {o : Op} {answer : Reply → Option α}
    {post : Except LaunchError α → Device → Prop}
    (h : ∀ r w', TimelyAnswers w o r w' → I w' ∧ (∀ a, answer r = some a → post (.ok a) w') ∧
      ∀ e, answer r = none → post (.error e) w') : Meets I (Call.ask o answer) post w := by
  intro r w' hanswer
  obtain ⟨hI, hok, herror⟩ := h r w' hanswer
  refine ⟨hI, ?_⟩
  show post _ w'
  cases hr : answer r with
  | some a => exact hok a hr
  | none =>
    cases r with
    | failed e => exact herror e hr
    | _ => exact herror _ hr

/-- What a deadline makes of an operation the operation could have done itself, unless it leaves
the operation behind. -/
theorem timed_answers {o : Op} {r : Reply} (h : TimelyAnswers w (.timed o) r w')
    (ho : o.awaits = true) :
    (∃ r', TimelyAnswers w o r' w' ∧ (r = .expired ∨ r' = r)) ∨
    ∃ before serve, o = .enable serve ∧ r = .expired ∧ Relation.ReflTransGen Change w before ∧
      w' = { before.note (.enabled serve before.latest) with
        background := serve :: before.background } := by
  obtain ⟨⟨before, hchange, heffect⟩, htimely⟩ := h
  have hplain : ∀ {r'}, Effect before o r' w' → ((∃ e, r = .failed e) → r' = r) →
      TimelyAnswers w o r' w' := by
    refine fun {r'} hinner hfailed => ⟨⟨before, hchange, hinner⟩, fun hlooks hr => ?_,
      fun id hid => ?_⟩
    · exact htimely.1 hlooks fun e he => hr e ((hfailed ⟨e, he⟩).trans he)
    · rw [hid] at ho
      cases ho
  cases heffect with
  | failed _ e => exact .inl ⟨.failed e, hplain (.failed o e) fun _ => rfl, .inr rfl⟩
  | done hquiet => cases hquiet
  | timed hinner => exact .inl ⟨r, hplain hinner fun _ => rfl, .inr rfl⟩
  | @expired _ r' _ hinner =>
    refine .inl ⟨r', hplain hinner ?_, .inl rfl⟩
    rintro ⟨e, he⟩
    cases he
  | detached serve => exact .inr ⟨before, serve, rfl, rfl, hchange, rfl⟩

omit [UrlParser] in
/-- A command that is left behind is one that the record on disk names. -/
theorem left_sound {before : Device} {serve : OwnedServe} (hbefore : before.Sound)
    (hdone : ((before.note (.enabled serve before.latest)).enabled serve).Sound) :
    Sound { before.note (.enabled serve before.latest) with
      background := serve :: before.background } where
  owned := hbefore.owned
  background other hother := by
    rcases List.mem_cons.mp hother with rfl | hother
    · exact hdone.owned other.port _ other.instanceId (Function.update_self _ _ _) rfl
    · exact hbefore.background other hother
  log := hdone.log
  used := hbefore.used
  waiting := hbefore.waiting

/-- A deadline does not change what a call keeps. -/
theorem Meets.timed {record : RuntimeRecord} {p : Call α}
    {post : Except LaunchError α → Device → Prop} (hw : w.Sound ∧ Holds record w)
    (h : Meets (fun w => w.Sound ∧ Holds record w) p post w)
    (hexpired : ∀ w', post (.error .startupTimeout) w') :
    Meets (fun w => w.Sound ∧ Holds record w) (Call.timed p) post w := by
  induction p generalizing w with
  | ret a => exact h
  | op o k ih =>
    unfold Call.timed
    split
    · next hawaits =>
      intro r w' hanswer
      rcases timed_answers hanswer hawaits with ⟨r', hanswer', hsame⟩ |
        ⟨before, serve, rfl, rfl, hchange, rfl⟩
      · obtain ⟨hw', hk⟩ := h r' w' hanswer'
        refine ⟨hw', ?_⟩
        cases r with
        | expired => exact hexpired w'
        | _ =>
          rw [hsame.resolve_left nofun] at hk
          exact ih _ hw' hk
      · have hdone : TimelyAnswers w (.enable serve) .done
            ((before.note (.enabled serve before.latest)).enabled serve) :=
          ⟨⟨before, hchange, .enable (.inl rfl)⟩, nofun, nofun⟩
        obtain ⟨hsound, hholds⟩ := (h _ _ hdone).1
        exact ⟨⟨left_sound (meanwhile_sound hw.1 hchange).1 hsound, hholds.of_disk rfl⟩,
          hexpired _⟩
    · intro r w' hanswer
      obtain ⟨hw', hk⟩ := h r w' hanswer
      exact ⟨hw', ih r hw' hk⟩

end calls

section operations

variable [UrlParser] {α : Type} {w : Device} {o : Op} {answer : Reply → Option α}
  {record : RuntimeRecord}

theorem quiet_answers {r : Reply} {w' : Device} (hw : w.Sound) (ho : o.quiet = true)
    (h : TimelyAnswers w o r w') : w'.Sound ∧ Calm w w' := by
  obtain ⟨⟨before, hchange, heffect⟩, -⟩ := h
  have hsame : w' = before := by
    cases heffect with
    | failed | done | read | marker | unhealthy => rfl
    | snapshot | write | remove | enable | disable | newInstance | launch | launchFailed
    | release | resume | timed | expired | detached => cases ho
  exact hsame ▸ meanwhile_sound hw hchange

theorem ask_quiet (hw : w.Sound) (ho : o.quiet = true) :
    Meets Sound (Call.ask o answer) (fun _ w' => Calm w w') w :=
  Meets.ask fun _ _ hanswer => by
    obtain ⟨hw', hcalm⟩ := quiet_answers hw ho hanswer
    exact ⟨hw', fun _ _ => hcalm, fun _ _ => hcalm⟩

omit [UrlParser] in
theorem looks_of_quiet (ho : o.quiet = true) : o.looks = false := by
  cases o with
  | snapshot | timed => cases ho
  | _ => rfl

/-- An operation keeps a record on disk as well. -/
theorem Meets.held {post : Except LaunchError α → Device → Prop}
    (h : Meets Sound (Call.ask o answer) post w) (hpost : ∀ r w', post r w' → Holds record w') :
    Meets (fun w => w.Sound ∧ Holds record w) (Call.ask o answer) post w := by
  intro r w' hanswer
  obtain ⟨hw', hr⟩ := h r w' hanswer
  exact ⟨⟨hw', hpost _ _ hr⟩, hr⟩

theorem read_meets (hw : w.Sound) :
    Meets Sound Call.read (fun r w' => Calm w w' ∧ ∀ found, r = .ok found → found = w'.disk) w := by
  refine Meets.ask fun r w' hanswer => ?_
  obtain ⟨hw', hcalm⟩ := quiet_answers hw rfl hanswer
  refine ⟨hw', fun found hfound => ⟨hcalm, fun _ heq => ?_⟩, fun _ _ => ⟨hcalm, nofun⟩⟩
  obtain rfl := Except.ok.inj heq
  obtain ⟨⟨before, -, heffect⟩, -⟩ := hanswer
  cases heffect with
  | failed => cases hfound
  | done => cases hfound
  | read => exact (Option.some.inj hfound).symm

/-- A snapshot shows the mappings as they are. -/
theorem snapshot_meets (hw : w.Sound) :
    Meets Sound Call.snapshot (fun r w' => Still w w' ∧
      ∀ s, r = .ok s → w'.latest = some s ∧ s.tcpForwards = w'.target ∧ w'.background = []) w := by
  refine Meets.ask fun r w' hanswer => ?_
  obtain ⟨⟨before, hchange, heffect⟩, htimely⟩ := hanswer
  obtain ⟨hbefore, hcalm⟩ := meanwhile_sound hw hchange
  cases heffect with
  | failed e => exact ⟨hbefore, nofun, fun _ _ => ⟨hcalm.toStill, nofun⟩⟩
  | done h => cases h
  | snapshot s h =>
    have hstill : Still w { before with latest := some s } :=
      ⟨hcalm.disk, hcalm.used, hcalm.waiting, hcalm.background, hcalm.bare, hcalm.named⟩
    refine ⟨⟨hbefore.owned, hbefore.background, hbefore.log, hbefore.used, hbefore.waiting⟩,
      fun found hfound => ⟨hstill, fun s' hs' => ?_⟩, fun _ _ => ⟨hstill, nofun⟩⟩
    obtain rfl := Except.ok.inj hs'
    obtain rfl := Option.some.inj hfound
    exact ⟨rfl, h, htimely.1 rfl nofun⟩

/-- The record on disk goes only when no mapping of the launcher is in effect. -/
theorem remove_meets {id : Uuid} (hw : w.Sound) (hbare : w.Bare) :
    Meets Sound (Call.act (.removeIfInstance id)) (fun r w' => r = .ok () →
      ∀ current, w.disk = some current → current.instanceId = id → w'.disk = none) w := by
  refine Meets.ask fun r w' hanswer => ?_
  obtain ⟨⟨before, hchange, heffect⟩, -⟩ := hanswer
  obtain ⟨hbefore, hcalm⟩ := meanwhile_sound hw hchange
  cases heffect with
  | failed e => exact ⟨hbefore, nofun, fun _ _ => nofun⟩
  | done h => cases h
  | remove hr =>
    have hsound : (before.removed id).Sound := by
      unfold Device.removed
      split
      · have hbare := hcalm.bare hbare
        exact ⟨owned_of_bare hbare, hbare.1 ▸ List.forall_mem_nil _, hbefore.log, nofun,
          fun record hrecord => ⟨(hbefore.waiting record hrecord).1, nofun⟩⟩
      · exact hbefore
    refine ⟨hsound, fun _ _ _ current hdisk hid => ?_, fun _ _ => nofun⟩
    unfold Device.removed
    rw [if_pos]
    rw [hcalm.disk, hdisk]
    exact decide_eq_true hid

/-- A record is written over one of the same instance with the same mapping, or over none. -/
theorem write_meets (hw : w.Sound)
    (howned : ∀ port target id, (∃ current, w.disk = some current ∧ current.Names port target id) →
      record.Names port target id)
    (hused : record.instanceId ∈ w.used)
    (hwaiting : ∀ other ∈ w.waiting, record.instanceId = other.instanceId →
      record.ownedServe = other.ownedServe) :
    Meets Sound (Call.act (.write record)) (fun r w' => w'.used = w.used ∧ w'.waiting = w.waiting ∧
      w'.latest = w.latest ∧ (w.Bare → w'.Bare) ∧ (w'.disk = w.disk ∨ w'.disk = some record) ∧
      (r = .ok () → w'.disk = some record)) w := by
  refine Meets.ask fun r w' hanswer => ?_
  obtain ⟨⟨before, hchange, heffect⟩, -⟩ := hanswer
  obtain ⟨hbefore, hcalm⟩ := meanwhile_sound hw hchange
  cases heffect with
  | failed e =>
    exact ⟨hbefore, nofun, fun _ _ => ⟨hcalm.used, hcalm.waiting, hcalm.latest, hcalm.bare,
      .inl hcalm.disk, nofun⟩⟩
  | done h => cases h
  | write hvalid hr =>
    refine ⟨⟨fun port m id hm howner => ?_, fun serve hserve => ?_, hbefore.log,
      fun current hdisk => ?_, fun other hother => ?_⟩, fun _ _ => ?_, fun _ _ => ?_⟩
    · obtain ⟨current, hdisk, hnames⟩ := hbefore.owned port m id hm howner
      exact ⟨record, rfl, howned port m.target id ⟨current, hcalm.disk ▸ hdisk, hnames⟩⟩
    · obtain ⟨current, hdisk, hnames⟩ := hbefore.background serve hserve
      exact ⟨record, rfl, howned _ _ _ ⟨current, hcalm.disk ▸ hdisk, hnames⟩⟩
    · obtain rfl := Option.some.inj hdisk
      exact hcalm.used ▸ hused
    · refine ⟨(hbefore.waiting other hother).1, fun current hdisk hid => ?_⟩
      obtain rfl := Option.some.inj hdisk
      exact hwaiting other (hcalm.waiting ▸ hother) hid
    · exact ⟨hcalm.used, hcalm.waiting, hcalm.latest, hcalm.bare, .inr rfl, fun _ => rfl⟩
    · exact ⟨hcalm.used, hcalm.waiting, hcalm.latest, hcalm.bare, .inr rfl, nofun⟩

/-- A mapping is switched off that the record on disk names. -/
theorem disable_meets {serve : OwnedServe} (hw : w.Sound) (hholds : Holds record w)
    (hserve : record.ownedServe = some serve) (hbackground : w.background = [])
    (htarget : w.target serve.port = some serve.target) :
    Meets Sound (Call.act (.disable serve)) (fun _ w' => w'.disk = w.disk) w := by
  refine Meets.ask fun r w' hanswer => ?_
  obtain ⟨⟨before, hchange, heffect⟩, -⟩ := hanswer
  obtain ⟨hbefore, hcalm⟩ := meanwhile_sound hw hchange
  cases heffect with
  | failed e => exact ⟨hbefore, fun _ _ => hcalm.disk, fun _ _ => hcalm.disk⟩
  | done h => cases h
  | disable hr =>
    obtain ⟨current, hdisk, -, hcurrent⟩ := hholds
    have hnow : before.target serve.port = some serve.target := by
      unfold Device.target
      rw [hcalm.named hbackground current serve hdisk (hcurrent.trans hserve)]
      exact htarget
    refine ⟨⟨fun port m id hm howner => ?_, hbefore.background, fun e he => ?_, hbefore.used,
      hbefore.waiting⟩, fun _ _ => hcalm.disk, fun _ _ => hcalm.disk⟩
    · have hm : Function.update before.serve serve.port none port = some m := hm
      by_cases hport : port = serve.port
      · rw [hport, Function.update_self] at hm
        cases hm
      · rw [Function.update_of_ne hport] at hm
        exact hbefore.owned port m id hm howner
    · rcases List.mem_cons.mp he with rfl | he
      · exact ⟨hnow, current, hcalm.disk.trans hdisk, hcurrent.trans hserve⟩
      · exact hbefore.log e he

/-- A mapping is enabled that the record on disk names, for a port that was seen unused. -/
theorem enable_meets {serve : OwnedServe} (hw : w.Sound ∧ Holds record w)
    (hserve : record.ownedServe = some serve) (hproper : serve.instanceId = record.instanceId)
    (hfree : ∃ s, w.latest = some s ∧ s.tcpForwards serve.port = none) :
    Meets (fun w => w.Sound ∧ Holds record w) (Call.act (.enable serve)) (fun _ _ => True) w := by
  refine Meets.ask fun r w' hanswer => ⟨?_, fun _ _ => trivial, fun _ _ => trivial⟩
  obtain ⟨⟨before, hchange, heffect⟩, -⟩ := hanswer
  obtain ⟨hbefore, hcalm⟩ := meanwhile_sound hw.1 hchange
  obtain ⟨current, hdisk, hid, hcurrent⟩ := hw.2
  have hheld : Holds record before := ⟨current, hcalm.disk.trans hdisk, hid, hcurrent⟩
  cases heffect with
  | failed e => exact ⟨hbefore, hheld⟩
  | done h => cases h
  | enable hr =>
    refine ⟨⟨fun port m id hm howner => ?_, hbefore.background, fun e he => ?_, hbefore.used,
      hbefore.waiting⟩, hheld⟩
    · have hm : Function.update before.serve serve.port _ port = some m := hm
      by_cases hport : port = serve.port
      · rw [hport, Function.update_self] at hm
        obtain rfl := Option.some.inj hm
        obtain rfl := Option.some.inj howner
        subst hport
        exact ⟨current, hcalm.disk.trans hdisk, hid.trans hproper.symm, hcurrent.trans hserve⟩
      · rw [Function.update_of_ne hport] at hm
        exact hbefore.owned port m id hm howner
    · rcases List.mem_cons.mp he with rfl | he
      · exact hcalm.latest ▸ hfree
      · exact hbefore.log e he

end operations

section programs

variable [UrlParser] {α : Type} {w : Device} {record : RuntimeRecord}

omit [UrlParser] in
/-- Without a mapping on the port of the record, nothing of the launcher is in effect. -/
theorem bare_of_unmapped {serve : OwnedServe} (hw : w.Sound) (hholds : Holds record w)
    (hserve : record.ownedServe = some serve) (hbackground : w.background = [])
    (hport : w.target serve.port = none) : w.Bare := by
  obtain ⟨current, hdisk, -, hcurrent⟩ := hholds
  refine ⟨hbackground, fun port m hm => ?_⟩
  cases howner : m.owner with
  | none => rfl
  | some id =>
    obtain ⟨found, hfound, -, hnames⟩ := hw.owned port m id hm howner
    obtain rfl := Option.some.inj (hdisk.symm.trans hfound)
    obtain rfl := Option.some.inj (hserve.symm.trans (hcurrent.symm.trans hnames))
    unfold Device.target at hport
    rw [hm] at hport
    cases hport

theorem cleanupOwnedServe_meets (hw : w.Sound) (hholds : Holds record w) :
    Meets Sound (cleanupOwnedServe record)
      (fun r w' => w'.disk = w.disk ∧ (r = .ok () → w'.Bare)) w := by
  unfold cleanupOwnedServe
  cases hserve : record.ownedServe with
  | none =>
    obtain ⟨current, hdisk, -, hcurrent⟩ := hholds
    have hnamed : ∀ port target id,
        ¬ ∃ found, w.disk = some found ∧ found.Names port target id := by
      rintro port target id ⟨found, hfound, -, hnames⟩
      obtain rfl := Option.some.inj (hdisk.symm.trans hfound)
      rw [hcurrent, hserve] at hnames
      cases hnames
    refine ⟨rfl, fun _ => ⟨List.eq_nil_iff_forall_not_mem.mpr fun serve hmem =>
      hnamed _ _ _ (hw.background serve hmem), fun port m hm => ?_⟩⟩
    cases howner : m.owner with
    | none => rfl
    | some id => exact absurd (hw.owned port m id hm howner) (hnamed _ _ _)
  | some serve =>
    dsimp only
    refine Meets.require (fun _ => ?_) fun _ => ⟨rfl, nofun⟩
    refine Meets.bind hw (snapshot_meets hw) (fun s w₁ hw₁ h₁ => ?_) fun _ _ _ h =>
      ⟨h.1.disk, nofun⟩
    obtain ⟨hstill₁, hsnapshot⟩ := h₁
    obtain ⟨-, hforwards, hbackground₁⟩ := hsnapshot s rfl
    have hholds₁ := hstill₁.holds hholds
    refine Meets.require (fun _ => ?_) fun _ => ⟨hstill₁.disk, nofun⟩
    rw [hforwards]
    cases htarget : w₁.target serve.port with
    | none =>
      exact ⟨hstill₁.disk, fun _ => bare_of_unmapped hw₁ hholds₁ hserve hbackground₁ htarget⟩
    | some target =>
      dsimp only
      refine Meets.require (fun hsame => ?_) fun _ => ⟨hstill₁.disk, nofun⟩
      obtain rfl : target = serve.target := of_decide_eq_true hsame
      refine Meets.bind hw₁ (disable_meets hw₁ hholds₁ hserve hbackground₁ htarget)
        (fun _ w₂ hw₂ hdisk₂ => ?_) fun _ _ _ hdisk => ⟨hdisk.trans hstill₁.disk, nofun⟩
      refine Meets.bind hw₂ (snapshot_meets hw₂) (fun s w₃ hw₃ h₃ => ?_)
        fun _ _ _ h => ⟨(h.1.disk.trans hdisk₂).trans hstill₁.disk, nofun⟩
      obtain ⟨hstill₃, hsnapshot₃⟩ := h₃
      obtain ⟨-, hforwards₃, hbackground₃⟩ := hsnapshot₃ s rfl
      have hdisk₃ := (hstill₃.disk.trans hdisk₂).trans hstill₁.disk
      refine Meets.require (fun _ => ?_) fun _ => ⟨hdisk₃, nofun⟩
      have hholds₃ : Holds record w₃ := hholds.of_disk hdisk₃
      cases hgone : s.tcpForwards serve.port with
      | none =>
        rw [hforwards₃] at hgone
        exact ⟨hdisk₃, fun _ => bare_of_unmapped hw₃ hholds₃ hserve hbackground₃ hgone⟩
      | some target => exact ⟨hdisk₃, nofun⟩

theorem recoverStale_meets (hw : w.Sound) (hholds : Holds record w) :
    Meets Sound (recoverStale record) (fun r w' => r = .ok () → w'.disk = none) w := by
  refine Meets.bind hw (cleanupOwnedServe_meets hw hholds) (fun _ w₁ hw₁ h₁ => ?_)
    fun _ _ _ _ => nofun
  obtain ⟨hdisk₁, hbare₁⟩ := h₁
  obtain ⟨current, hdisk, hid, -⟩ := hholds
  exact (remove_meets hw₁ (hbare₁ rfl)).mono hw₁ fun r w' _ h hr =>
    h hr current (hdisk₁.trans hdisk) hid

theorem reuse_meets (hw : w.Sound) (hdisk : w.disk = some record) :
    Meets Sound (reuse record) (fun r w' => r = .ok none → w'.disk = none) w := by
  refine Meets.bind hw (ask_quiet hw rfl) (fun health w₁ hw₁ hcalm₁ => ?_) fun _ _ _ _ => nofun
  have hholds : Holds record w₁ := ⟨record, hcalm₁.disk.trans hdisk, rfl, rfl⟩
  cases health with
  | ok marker =>
    refine Meets.require (fun _ => ?_) fun _ => nofun
    exact Meets.bind hw₁ (ask_quiet hw₁ rfl) (fun _ _ _ _ => nofun) fun _ _ _ _ => nofun
  | error failure =>
    cases failure with
    | connectionRefused =>
      refine Meets.bind hw₁ (recoverStale_meets hw₁ hholds) (fun _ _ _ h _ => h rfl)
        fun _ _ _ _ => nofun
    | _ => exact nofun

theorem orTerminate_meets {p : Call α} {post : α → Device → Prop} (hw : w.Sound)
    (h : Meets Sound p (fun r w' => ∀ a, r = .ok a → post a w') w) :
    Meets Sound (orTerminate p) (fun r w' => ∀ a, r = .ok a → post a w') w := by
  refine Meets.attempt hw h fun outcome w₁ hw₁ houtcome => ?_
  cases outcome with
  | ok a => exact houtcome
  | error e => exact Meets.attempt hw₁ (ask_quiet hw₁ rfl) fun _ _ _ _ => nofun

theorem planOwned_meets {mode : RuntimeShareMode} {id : Uuid} {port : ℕ} (hw : w.Sound) :
    Meets Sound (planOwned mode id port)
      (fun r w' => ∀ serve, r = .ok serve → Still w w' ∧ Planned id serve w') w := by
  unfold planOwned
  split
  · have hplan : Meets Sound (planServe id port)
        (fun r w' => ∀ serve, r = .ok serve → Still w w' ∧ Planned id (some serve) w') w := by
      refine Meets.bind hw (snapshot_meets hw) (fun s w₁ hw₁ h₁ => ?_) fun _ _ _ _ => nofun
      obtain ⟨hstill, hsnapshot⟩ := h₁
      obtain ⟨hlatest, -⟩ := hsnapshot s rfl
      refine Meets.require (fun _ => ?_) fun _ => nofun
      refine Meets.require (fun hnone => ?_) fun _ => nofun
      intro serve hserve
      obtain rfl := Except.ok.inj hserve
      refine ⟨hstill, fun found hfound => ?_⟩
      obtain rfl := Option.some.inj hfound
      exact ⟨rfl, s, hlatest, Option.isNone_iff_eq_none.mp hnone⟩
    refine Meets.bind hw (orTerminate_meets hw hplan) (fun serve w₁ _ h₁ => ?_) fun _ _ _ _ => nofun
    intro found hfound
    obtain rfl := Except.ok.inj hfound
    exact h₁ serve rfl
  · intro serve hserve
    obtain rfl := Except.ok.inj hserve
    exact ⟨.refl w, nofun⟩

theorem ask_held {o : Op} {answer : Reply → Option α} (hw : w.Sound ∧ Holds record w)
    (ho : o.quiet = true) :
    Meets (fun w => w.Sound ∧ Holds record w) (Call.ask o answer) (fun _ w' => Calm w w') w :=
  (ask_quiet hw.1 ho).held fun _ _ h => h.holds hw.2

theorem publishedUrl_meets (hw : w.Sound ∧ Holds record w)
    (hplan : Planned record.instanceId record.ownedServe w) :
    Meets (fun w => w.Sound ∧ Holds record w) (publishedUrl record) (fun _ _ => True) w := by
  unfold publishedUrl
  cases record.shareMode with
  | local_ => exact trivial
  | lan =>
    refine Meets.ofExcept (fun _ _ => ?_) fun _ _ => trivial
    exact Meets.require (fun _ => trivial) fun _ => trivial
  | tailscale =>
    cases hserve : record.ownedServe with
    | none => exact trivial
    | some serve =>
      obtain ⟨hid, hfree⟩ := hplan serve hserve
      refine Meets.bind hw (enable_meets hw hserve hid hfree) (fun _ w₁ hw₁ _ => ?_)
        fun _ _ _ _ => trivial
      refine Meets.bind hw₁ ((snapshot_meets hw₁.1).held fun _ _ h => h.1.holds hw₁.2)
        (fun s w₂ _ _ => ?_) fun _ _ _ _ => trivial
      refine Meets.require (fun _ => ?_) fun _ => trivial
      refine Meets.require (fun _ => ?_) fun _ => trivial
      cases s.selfIpv4.head? with
      | none => exact trivial
      | some address => exact trivial

theorem finishStart_meets (hw : w.Sound ∧ Holds record w)
    (hplan : Planned record.instanceId record.ownedServe w) :
    Meets (fun w => w.Sound ∧ Holds record w) (finishStart record) (fun r _ => ∀ found,
      r = .ok found → found.instanceId = record.instanceId ∧ found.ownedServe = record.ownedServe)
      w := by
  refine Meets.bind hw (ask_held hw rfl) (fun health w₁ hw₁ hcalm₁ => ?_) fun _ _ _ _ => nofun
  cases health with
  | error failure => exact nofun
  | ok marker =>
    refine Meets.require (fun _ => ?_) fun _ => nofun
    refine Meets.bind hw₁ (ask_held hw₁ rfl) (fun _ w₂ hw₂ hcalm₂ => ?_) fun _ _ _ _ => nofun
    refine Meets.bind hw₂ (publishedUrl_meets hw₂ (hcalm₂.planned (hcalm₁.planned hplan)))
      (fun url w₃ hw₃ _ => ?_) fun _ _ _ _ => nofun
    have hpublish : ∀ {published : RuntimeRecord} {w₄ : Device}, w₄.Sound ∧ Holds record w₄ →
        published.instanceId = record.instanceId → published.ownedServe = record.ownedServe →
        Meets (fun w => w.Sound ∧ Holds record w)
          (do Call.act (.publish url published); pure published) (fun r _ => ∀ found,
            r = .ok found → found.instanceId = record.instanceId ∧
              found.ownedServe = record.ownedServe) w₄ := by
      intro published w₄ hw₄ hid hserve
      refine Meets.bind hw₄ (ask_held hw₄ rfl) (fun _ _ _ _ found hfound => ?_) fun _ _ _ _ => nofun
      obtain rfl := Except.ok.inj hfound
      exact ⟨hid, hserve⟩
    split
    · obtain ⟨current, hdisk, hid, hcurrent⟩ := hw₃.2
      have hwrite : Meets Sound
        (Call.act (.write { record with advertisedUrl := some url })) _ w₃ :=
        write_meets hw₃.1 (fun port target id hnames => ?_) (hid ▸ hw₃.1.used current hdisk)
          fun other hother heq => ?_
      · refine Meets.bind hw₃ (hwrite.held fun _ w₄ h => ?_)
          (fun _ w₄ hw₄ _ => hpublish hw₄ rfl rfl) fun _ _ _ _ => nofun
        obtain ⟨-, -, -, -, hdisk₄, -⟩ := h
        rcases hdisk₄ with hdisk₄ | hdisk₄
        · exact ⟨current, hdisk₄.trans hdisk, hid, hcurrent⟩
        · exact ⟨_, hdisk₄, rfl, rfl⟩
      · obtain ⟨found, hfound, hnamed, hserve⟩ := hnames
        obtain rfl := Option.some.inj (hdisk.symm.trans hfound)
        exact ⟨hid.symm.trans hnamed, hcurrent.symm.trans hserve⟩
      · have hother' := (hw₃.1.waiting other hother).2 current hdisk (hid.trans heq)
        exact hcurrent.symm.trans hother'
    · exact hpublish hw₃ rfl rfl

theorem cleanupFailedStart_meets (hw : w.Sound) (hholds : Holds record w) :
    Meets Sound (cleanupFailedStart record) (fun _ _ => True) w := by
  refine Meets.attempt hw (cleanupOwnedServe_meets hw hholds) fun serve w₁ hw₁ hserve => ?_
  refine Meets.attempt hw₁ (ask_quiet hw₁ rfl) fun child w₂ hw₂ hcalm₂ => ?_
  split
  · next hboth =>
    have hbare : w₁.Bare := by
      cases serve with
      | ok u => exact hserve.2 rfl
      | error e => cases hboth
    exact (remove_meets hw₂ (hcalm₂.bare hbare)).mono hw₂ fun _ _ _ _ => trivial
  · refine Meets.ofExcept (fun _ _ => ?_) fun _ _ => trivial
    exact trivial

theorem settle_meets {background : Bool} (hw : w.Sound) (hholds : Holds record w)
    (hplan : Planned record.instanceId record.ownedServe w) :
    Meets Sound (settle record background) (fun _ _ => True) w := by
  have hfinish : Meets Sound (Call.timed (finishStart record)) (fun r w' => Holds record w' ∧
      ∀ found, r = .ok found → found.instanceId = record.instanceId ∧
        found.ownedServe = record.ownedServe) w := by
    have htimed := Meets.timed ⟨hw, hholds⟩ (finishStart_meets ⟨hw, hholds⟩ hplan) fun _ => nofun
    exact Prog.Safe.weaken ⟨hw, hholds⟩ htimed (fun _ h => h.1) fun _ _ h hr => ⟨h.2, hr⟩
  refine Meets.attempt hw hfinish fun setup w₁ hw₁ hsetup => ?_
  obtain ⟨hholds₁, hfound⟩ := hsetup
  cases setup with
  | error e =>
    exact Meets.bind hw₁ (cleanupFailedStart_meets hw₁ hholds₁) (fun _ _ _ _ => trivial)
      fun _ _ _ _ => trivial
  | ok found =>
    obtain ⟨hid, hserve⟩ := hfound found rfl
    dsimp only
    split
    · exact Meets.bind hw₁ (ask_quiet hw₁ rfl) (fun _ _ _ _ => trivial) fun _ _ _ _ => trivial
    · have hrelease : Meets Sound (Call.act (.release found)) (fun _ _ => True) w₁ := by
        refine Meets.ask fun r w' hanswer => ⟨?_, fun _ _ => trivial, fun _ _ => trivial⟩
        obtain ⟨⟨before, hchange, heffect⟩, -⟩ := hanswer
        obtain ⟨hbefore, hcalm⟩ := meanwhile_sound hw₁ hchange
        cases heffect with
        | failed e => exact hbefore
        | done h => cases h
        | release =>
          obtain ⟨current, hdisk, hcurrent, hsame⟩ := hcalm.holds hholds₁
          refine ⟨hbefore.owned, hbefore.background, hbefore.log, hbefore.used, fun r hr => ?_⟩
          rcases List.mem_cons.mp hr with rfl | hr
          · refine ⟨?_, fun other hother _ => ?_⟩
            · rw [hid, ← hcurrent]
              exact hbefore.used current hdisk
            · obtain rfl := Option.some.inj (hdisk.symm.trans hother)
              exact hsame.trans hserve.symm
          · exact hbefore.waiting r hr
      exact Meets.bind hw₁ hrelease (fun _ _ _ _ => trivial) fun _ _ _ _ => trivial

/-- No router that is waited for was launched as the instance. -/
def Fresh (id : Uuid) (w : Device) : Prop :=
  id ∈ w.used ∧ ∀ record ∈ w.waiting, record.instanceId ≠ id

theorem newInstance_meets {wanted : Option Uuid} (hw : w.Sound) :
    Meets Sound (Call.newInstance wanted)
      (fun r w' => w'.disk = w.disk ∧ ∀ id, r = .ok id → Fresh id w') w := by
  refine Meets.ask fun r w' hanswer => ?_
  obtain ⟨⟨before, hchange, heffect⟩, htimely⟩ := hanswer
  obtain ⟨hbefore, hcalm⟩ := meanwhile_sound hw hchange
  cases heffect with
  | failed e => exact ⟨hbefore, nofun, fun _ _ => ⟨hcalm.disk, nofun⟩⟩
  | done h => cases h
  | @newInstance _ id hid =>
    have hnew : id ∉ before.used := by
      cases wanted with
      | none => exact hid
      | some chosen =>
        obtain rfl : chosen = id := hid
        rw [hcalm.used]
        exact htimely.2 chosen rfl
    refine ⟨⟨hbefore.owned, hbefore.background, hbefore.log, fun record hrecord =>
      List.mem_cons_of_mem _ (hbefore.used record hrecord), fun record hrecord =>
      ⟨List.mem_cons_of_mem _ (hbefore.waiting record hrecord).1,
      (hbefore.waiting record hrecord).2⟩⟩,
      fun found hfound => ⟨hcalm.disk, fun id' hid' => ?_⟩, fun _ _ => ⟨hcalm.disk, nofun⟩⟩
    obtain rfl := Except.ok.inj hid'
    obtain rfl := Option.some.inj hfound
    refine ⟨List.mem_cons_self, fun record hrecord heq => hnew ?_⟩
    exact heq ▸ (hbefore.waiting record hrecord).1

theorem launch_meets {id : Uuid} {background : Bool} (hw : w.Sound) (hdisk : w.disk = none) :
    Meets Sound (Call.launch id background) (fun _ w' => Calm w w') w := by
  refine Meets.ask fun r w' hanswer => ?_
  obtain ⟨⟨before, hchange, heffect⟩, -⟩ := hanswer
  obtain ⟨hbefore, hcalm⟩ := meanwhile_sound hw hchange
  have hnoted : (before.note (.launched before.disk)).Sound ∧
      Calm w (before.note (.launched before.disk)) := by
    refine ⟨⟨hbefore.owned, hbefore.background, fun e he => ?_, hbefore.used, hbefore.waiting⟩,
      ⟨hcalm.disk, hcalm.used, hcalm.waiting, hcalm.background, hcalm.bare, hcalm.named⟩,
      hcalm.latest⟩
    rcases List.mem_cons.mp he with rfl | he
    · exact hcalm.disk.trans hdisk
    · exact hbefore.log e he
  cases heffect with
  | failed e => exact ⟨hbefore, fun _ _ => hcalm, fun _ _ => hcalm⟩
  | done h => cases h
  | launch => exact ⟨hnoted.1, fun _ _ => hnoted.2, fun _ _ => hnoted.2⟩
  | launchFailed => exact ⟨hnoted.1, fun _ _ => hnoted.2, fun _ _ => hnoted.2⟩

omit [UrlParser] in
theorem Device.Still.fresh {w' : Device} {id : Uuid} (h : Still w w') (hfresh : Fresh id w) :
    Fresh id w' := by
  unfold Fresh
  rw [h.used, h.waiting]
  exact hfresh

theorem initialSnapshot_meets {share : ShareRequest} (hw : w.Sound) :
    Meets Sound (initialSnapshot share) (fun r w' => ∀ found, r = .ok found → Still w w') w := by
  unfold initialSnapshot
  cases share with
  | local_ | lan => exact fun _ _ => .refl w
  | auto => exact Meets.attempt hw (snapshot_meets hw) fun _ _ _ h _ _ => h.1
  | tailscale =>
    exact Meets.bind hw (snapshot_meets hw) (fun _ _ _ h _ _ => h.1) fun _ _ _ _ => nofun

theorem acknowledge_meets {id : Uuid} (hw : w.Sound) (hbare : w.Bare) :
    Meets Sound (acknowledge id) (fun r w' => r = .ok () → Calm w w') w := by
  refine Meets.attempt hw (ask_quiet hw rfl) fun outcome w₁ hw₁ hcalm₁ => ?_
  cases outcome with
  | ok u => exact fun _ => hcalm₁
  | error e =>
    refine Meets.attempt hw₁ (ask_quiet hw₁ rfl) fun _ w₂ hw₂ hcalm₂ => ?_
    exact Meets.bind hw₂ (remove_meets hw₂ (hcalm₂.bare (hcalm₁.bare hbare)))
      (fun _ _ _ _ => nofun) fun _ _ _ _ => nofun

/-- A router is launched, recorded and set up only when there is no record. -/
theorem startNew_meets {options : StartOptions} (hw : w.Sound) (hdisk : w.disk = none) :
    Meets Sound (startNew options) (fun _ _ => True) w := by
  refine Meets.bind hw (initialSnapshot_meets hw) (fun found w₁ hw₁ h₁ => ?_) fun _ _ _ _ => trivial
  have hdisk₁ := (h₁ found rfl).disk.trans hdisk
  refine Meets.ofExcept (fun mode _ => ?_) fun _ _ => trivial
  refine Meets.bind hw₁ (newInstance_meets hw₁) (fun id w₂ hw₂ h₂ => ?_) fun _ _ _ _ => trivial
  have hdisk₂ := h₂.1.trans hdisk₁
  refine Meets.require (fun _ => ?_) fun _ => trivial
  refine Meets.bind hw₂ (ask_quiet hw₂ rfl) (fun _ w₃ hw₃ hcalm₃ => ?_) fun _ _ _ _ => trivial
  have hdisk₃ := hcalm₃.disk.trans hdisk₂
  refine Meets.bind hw₃ (orTerminate_meets hw₃ ((launch_meets hw₃ hdisk₃).mono hw₃
    fun _ _ _ h _ _ => h)) (fun ready w₄ hw₄ h₄ => ?_) fun _ _ _ _ => trivial
  have hcalm₄ := h₄ ready rfl
  have hcheck : Meets Sound (checkReady ready id options)
      (fun r w' => ∀ port, r = .ok port → Still w₄ w') w₄ := by
    refine Meets.require (fun _ => ?_) fun _ => nofun
    exact fun _ _ => .refl w₄
  refine Meets.bind hw₄ (orTerminate_meets hw₄ hcheck) (fun port w₅ hw₅ h₅ => ?_)
    fun _ _ _ _ => trivial
  have hstill₅ := h₅ port rfl
  refine Meets.bind hw₅ (planOwned_meets hw₅) (fun serve w₆ hw₆ h₆ => ?_) fun _ _ _ _ => trivial
  obtain ⟨hstill₆, hplan⟩ := h₆ serve rfl
  have hstill := (hcalm₃.toStill.trans hcalm₄.toStill).trans (hstill₅.trans hstill₆)
  have hdisk₆ := hstill.disk.trans hdisk₂
  obtain ⟨hused, hfresh⟩ := hstill.fresh (h₂.2 id rfl)
  let record : RuntimeRecord := ⟨id, ready.controlUrl, mode, none, serve⟩
  have hwrite : Meets Sound (Call.act (.write record)) _ w₆ := write_meets hw₆
    (fun port target id' ⟨current, hcurrent, _⟩ => absurd (hdisk₆.symm.trans hcurrent) nofun) hused
    fun other hother heq => absurd heq.symm (hfresh other hother)
  have hrecorded : Meets Sound (Call.act (.write record)) (fun r w' => ∀ a, r = .ok a →
      w'.disk = some record ∧ w'.latest = w₆.latest ∧ w'.Bare) w₆ := by
    refine hwrite.mono hw₆ fun r w' _ h a ha => ?_
    obtain ⟨-, -, hlatest, hbare, -, hok⟩ := h
    exact ⟨hok ha, hlatest, hbare (bare_of_none hw₆ hdisk₆)⟩
  refine Meets.bind hw₆ (orTerminate_meets hw₆ hrecorded) (fun _ w₇ hw₇ h₇ => ?_)
    fun _ _ _ _ => trivial
  obtain ⟨hdisk₇, hlatest₇, hbare₇⟩ := h₇ () rfl
  refine Meets.bind hw₇ (acknowledge_meets hw₇ hbare₇) (fun _ w₈ hw₈ h₈ => ?_)
    fun _ _ _ _ => trivial
  have hcalm₈ := h₈ rfl
  refine settle_meets hw₈ ⟨record, hcalm₈.disk.trans hdisk₇, rfl, rfl⟩ fun owned howned => ?_
  rw [hcalm₈.latest, hlatest₇]
  exact hplan owned howned

theorem start_meets {options : StartOptions} (hw : w.Sound) :
    Meets Sound (start options) (fun _ _ => True) w := by
  refine Meets.bind hw (ask_quiet hw rfl) (fun _ w₁ hw₁ _ => ?_) fun _ _ _ _ => trivial
  refine Meets.bind hw₁ (read_meets hw₁) (fun found w₂ hw₂ h₂ => ?_) fun _ _ _ _ => trivial
  have hdisk₂ := h₂.2 found rfl
  have hreuse : Meets Sound (found.elim (pure none) reuse)
      (fun r w' => r = .ok none → w'.disk = none) w₂ := by
    cases found with
    | none => exact fun _ => hdisk₂.symm
    | some record => exact reuse_meets hw₂ hdisk₂.symm
  refine Meets.bind hw₂ hreuse (fun reused w₃ hw₃ h₃ => ?_) fun _ _ _ _ => trivial
  cases reused with
  | none => exact startNew_meets hw₃ (h₃ rfl)
  | some record => exact trivial

theorem reap_meets (hw : w.Sound) : Meets Sound (reap record) (fun _ _ => True) w := by
  have hresume : Meets Sound (Call.act (.resume record)) (fun r w' => r = .ok () →
      ∀ current, w'.disk = some current → current.instanceId = record.instanceId →
        current.ownedServe = record.ownedServe) w := by
    refine Meets.ask fun r w' hanswer => ?_
    obtain ⟨⟨before, hchange, heffect⟩, -⟩ := hanswer
    obtain ⟨hbefore, -⟩ := meanwhile_sound hw hchange
    cases heffect with
    | failed e => exact ⟨hbefore, nofun, fun _ _ => nofun⟩
    | done h => cases h
    | resume h =>
      exact ⟨⟨hbefore.owned, hbefore.background, hbefore.log, hbefore.used, fun other hother =>
        hbefore.waiting other (List.mem_of_mem_erase hother)⟩,
        fun _ _ _ => (hbefore.waiting record h).2, fun _ _ => nofun⟩
  refine Meets.bind hw hresume (fun _ w₁ hw₁ h₁ => ?_) fun _ _ _ _ => trivial
  refine Meets.bind hw₁ (read_meets hw₁) (fun found w₂ hw₂ h₂ => ?_) fun _ _ _ _ => trivial
  obtain ⟨hcalm₂, hfound⟩ := h₂
  split
  · next hsame =>
    obtain ⟨current, hcurrent, hid⟩ := (Option.any_eq_true _ _).mp hsame
    have hdisk : w₂.disk = some current := (hfound found rfl).symm.trans hcurrent
    have hid := of_decide_eq_true hid
    have hserve := h₁ rfl current (hcalm₂.disk.symm.trans hdisk) hid
    exact (recoverStale_meets hw₂ ⟨current, hdisk, hid, hserve⟩).mono hw₂ fun _ _ _ _ => trivial
  · exact trivial

theorem stopRecorded_meets (hw : w.Sound) (hdisk : w.disk = some record) :
    Meets Sound (stopRecorded record) (fun _ _ => True) w := by
  refine Meets.bind hw (ask_quiet hw rfl) (fun health w₁ hw₁ hcalm₁ => ?_) fun _ _ _ _ => trivial
  have hrecover : ∀ {w' : Device} {outcome : StopOutcome}, w'.Sound → w'.disk = some record →
      Meets Sound (do recoverStale record; pure outcome) (fun _ _ => True) w' :=
    fun hw' hdisk' => Meets.bind hw' (recoverStale_meets hw' ⟨record, hdisk', rfl, rfl⟩)
      (fun _ _ _ _ => trivial) fun _ _ _ _ => trivial
  cases health with
  | ok marker =>
    refine Meets.require (fun _ => ?_) fun _ => trivial
    refine Meets.bind hw₁ (ask_quiet hw₁ rfl) (fun _ w₂ hw₂ hcalm₂ => ?_) fun _ _ _ _ => trivial
    refine Meets.bind hw₂ (ask_quiet hw₂ rfl) (fun _ w₃ hw₃ hcalm₃ => ?_) fun _ _ _ _ => trivial
    refine Meets.bind hw₃ (ask_quiet hw₃ rfl) (fun _ w₄ hw₄ hcalm₄ => ?_) fun _ _ _ _ => trivial
    have hcalm := (hcalm₁.trans hcalm₂).trans (hcalm₃.trans hcalm₄)
    exact hrecover hw₄ (hcalm.disk.trans hdisk)
  | error failure =>
    cases failure with
    | connectionRefused => exact hrecover hw₁ (hcalm₁.disk.trans hdisk)
    | _ => exact trivial

theorem stopLocked_meets {expected : Option Uuid} (hw : w.Sound) :
    Meets Sound (stopLocked expected) (fun _ _ => True) w := by
  refine Meets.bind hw (ask_quiet hw rfl) (fun _ w₁ hw₁ _ => ?_) fun _ _ _ _ => trivial
  refine Meets.bind hw₁ (read_meets hw₁) (fun found w₂ hw₂ h₂ => ?_) fun _ _ _ _ => trivial
  cases found with
  | none => exact trivial
  | some record =>
    refine Meets.require (fun _ => ?_) fun _ => trivial
    exact stopRecorded_meets hw₂ (h₂.2 _ rfl).symm

theorem call_meets {p : Prog Op Reply Unit} (h : IsCall p) (hw : w.Sound) :
    Prog.Safe TimelyAnswers Sound (fun _ _ => True) p w := by
  cases h with
  | start options => exact Prog.Safe.bind hw (start_meets hw) fun _ _ _ _ => trivial
  | reap record => exact Prog.Safe.bind hw (reap_meets hw) fun _ _ _ _ => trivial
  | stop expected => exact Prog.Safe.bind hw (stopLocked_meets hw) fun _ _ _ _ => trivial

end programs

/-- A device on which no call of the launcher has begun: what the record on disk names may be in
effect. -/
structure Device.Initial (w : Device) : Prop where
  owned : w.Owned
  used : ∀ record, w.disk = some record → record.instanceId ∈ w.used
  background : w.background = []
  waiting : w.waiting = []
  log : w.log = []

theorem Device.Initial.sound {w : Device} (h : w.Initial) : w.Sound where
  owned := h.owned
  background := by
    rw [h.background]
    nofun
  log := by
    rw [h.log]
    nofun
  used := h.used
  waiting := by
    rw [h.waiting]
    nofun

/-- In a run in which a command that is left behind takes effect before the next snapshot and no
instance is named twice, every mapping of the launcher in effect is named by the record on disk, at
any time, and all that the launcher did was justified by what it knew. -/
theorem mappings_owned_of_timely [UrlParser] {first w : Device} {p : Option (Prog Op Reply Unit)}
    (hfirst : first.Initial)
    (hrun : Prog.Reaches TimelyAnswers IsCall (Relation.ReflTransGen Change) first w p) :
    w.Owned ∧ ∀ e ∈ w.log, e.Justified := by
  obtain ⟨hw, -⟩ := hrun.invariant hfirst.sound (fun _ hp _ hw => call_meets hp hw)
    fun _ _ hw hchange => (meanwhile_sound hw hchange).1
  exact ⟨hw.owned, hw.log⟩

theorem Device.target_map (w : Device) (port : ℕ) (mapping : Option Mapping) (other : ℕ) :
    (w.map port mapping).target other =
      if other = port then mapping.map Mapping.target else w.target other := by
  show (Function.update w.serve port mapping other).map Mapping.target = _
  rw [Function.update_apply, apply_ite (Option.map Mapping.target)]
  rfl

section runs

variable {α β : Type} {w w' w'' : Device} {o : Op} {r : Reply}
  {A : Device → Op → Reply → Device → Prop}

/-- A whole run of a call. -/
abbrev CallRuns (A : Device → Op → Reply → Device → Prop) (p : Call α) (w w' : Device)
    (r : Except LaunchError α) : Prop :=
  Prog.Runs A p w w' r

theorem CallRuns.bind {p : Call α} {f : α → Call β} {a : α} {r : Except LaunchError β}
    (h : CallRuns A p w w' (.ok a)) (hf : CallRuns A (f a) w' w'' r) :
    CallRuns A (p >>= f) w w'' r :=
  Prog.Runs.bind h hf

theorem CallRuns.attempt {p : Call α} {f : Except LaunchError α → Call β}
    {a : Except LaunchError α} {r : Except LaunchError β} (h : CallRuns A p w w' a)
    (hf : CallRuns A (f a) w' w'' r) : CallRuns A (Call.attempt p >>= f) w w'' r :=
  CallRuns.bind (a := a) (Prog.Runs.bind h (.ret _ _)) hf

theorem CallRuns.ask {answer : Reply → Option α} {a : α} (h : A w o r w')
    (ha : answer r = some a) : CallRuns A (Call.ask o answer) w w' (.ok a) := by
  refine .op h ?_
  rw [ha]
  exact .ret _ _

theorem CallRuns.require {b : Bool} {e : LaunchError} {f : Unit → Call β}
    {r : Except LaunchError β} (hb : b = true) (hf : CallRuns A (f ()) w w' r) :
    CallRuns A (Call.require b e >>= f) w w' r := by
  rw [hb]
  exact hf

theorem CallRuns.verified {m : HealthMarker} {id : Uuid} (hm : m.verify id = true) :
    CallRuns A (verifyHealthMarker m id) w w (.ok ()) := by
  unfold verifyHealthMarker
  rw [hm]
  exact .ret _ _

theorem CallRuns.expired {k : Reply → Call α} (ho : o.awaits = true)
    (h : A w (.timed o) .expired w') :
    CallRuns A (Call.timed (.op o k)) w w' (.error .startupTimeout) := by
  unfold Call.timed
  rw [if_pos ho]
  exact Prog.Runs.op h (.ret _ _)

variable [UrlParser]

/-- The answer of an operation that nothing disturbs and no deadline ends. -/
def Smooth (w : Device) (o : Op) (r : Reply) (w' : Device) : Prop :=
  Effect w o r w' ∧ r ≠ .expired ∧ (∀ id, o = .newInstance (some id) → id ∉ w.used) ∧
    (o.looks = true → w'.background = [])

theorem Effect.answers (h : Effect w o r w') : Answers w o r w' := ⟨w, .refl, h⟩

theorem Smooth.answers (h : Smooth w o r w') : Answers w o r w' := h.1.answers

theorem Smooth.timely (h : Smooth w o r w') : TimelyAnswers w o r w' :=
  ⟨h.answers, fun hlooks _ => h.2.2.2 hlooks, h.2.2.1⟩

theorem Smooth.timed (h : Smooth w o r w') : Smooth w (.timed o) r w' :=
  ⟨.timed h.1, h.2.1, nofun, h.2.2.2⟩

/-- The part of a call that is over before its deadline. -/
theorem CallRuns.timed_bind {p : Call α} {f : α → Call β} {a : α} {r : Except LaunchError β}
    (hA : ∀ {w o r w'}, Smooth w o r w' → A w o r w') (h : CallRuns Smooth p w w' (.ok a))
    (hf : CallRuns A (Call.timed (f a)) w' w'' r) : CallRuns A (Call.timed (p >>= f)) w w'' r := by
  generalize houtcome : Except.ok a = outcome at h
  induction h with
  | ret b s =>
    subst houtcome
    exact hf
  | @op o k r _ _ _ _ ha _ ih =>
    show CallRuns A (Call.timed (.op o _)) _ _ _
    unfold Call.timed
    split
    · refine Prog.Runs.op (hA ha.timed) ?_
      cases r with
      | expired => exact absurd rfl ha.2.1
      | _ => exact ih hf houtcome
    · exact Prog.Runs.op (hA ha) (ih hf houtcome)

end runs

namespace Sample

def controlUrl : Url :=
  { scheme := "ws", username := "", password := none, host := some (.ipv4 127 0 0 1),
    port := some 9000, path := "/ws", query := none, fragment := none }

def tailnetUrl : Url := { controlUrl with host := some (.ipv4 100 64 0 1) }

/-- The parser on the two URLs of the runs. -/
scoped instance parser : UrlParser where
  parse text :=
    if text = "ws://127.0.0.1:9000/ws" then some controlUrl
    else if text = "ws://100.64.0.1:9000/ws" then some tailnetUrl
    else none
  href url := if url = controlUrl then "ws://127.0.0.1:9000/ws" else "ws://100.64.0.1:9000/ws"

def options (wanted : Option Uuid) : StartOptions where
  bind := ⟨.v4 127 0 0 1, 9000⟩
  share := .tailscale
  tls := none
  background := true
  instanceId := wanted

def instance1 : Uuid := ⟨1⟩

def instance2 : Uuid := ⟨2⟩

def instances : List Uuid := [instance1, instance2]

def ready (id : Uuid) : StartupReady := ⟨id, "ws://127.0.0.1:9000/ws"⟩

def marker (id : Uuid) : HealthMarker := ⟨"agent-session-router", 2, "ok", id⟩

def serve (id : Uuid) : OwnedServe := .loopback id 9000

def record (id : Uuid) : RuntimeRecord :=
  ⟨id, "ws://127.0.0.1:9000/ws", .tailscale, none, some (serve id)⟩

/-- The record once the router is published. -/
def advertised (id : Uuid) : RuntimeRecord :=
  { record id with advertisedUrl := some "ws://100.64.0.1:9000/ws" }

/-- A tailnet without mappings. -/
def seen : Snapshot := ⟨true, [.v4 100 64 0 1], [], fun _ => none⟩

/-- The tailnet on which the router is mapped. -/
def mapped : Snapshot :=
  { seen with tcpForwards := fun port => if port = 9000 then some "tcp://127.0.0.1:9000" else none }

/-- A device without a record and without mappings. -/
def idle (used : List Uuid) (latest : Option Snapshot) (log : List Event) : Device where
  serve _ := none
  disk := none
  background := []
  waiting := []
  used
  latest
  log

/-- The device when a router has been launched and its record is written. -/
def recorded (id : Uuid) (used : List Uuid) (log : List Event) : Device :=
  { idle (id :: used) (some seen) (.launched none :: log) with disk := some (record id) }

theorem instances_checked : ∀ id ∈ instances, id.isNil = false ∧ (record id).validate = true ∧
    (advertised id).validate = true ∧ (marker id).verify id = true ∧
    (serve id).validate id = true ∧ (serve id).target = "tcp://127.0.0.1:9000" := by
  decide +kernel

theorem tailnet_checked :
    validateReadyControlUrl "ws://127.0.0.1:9000/ws" (options none) = .ok 9000 ∧
      seen.validate = true ∧ mapped.validate = true := by
  decide +kernel

section

variable {A : Device → Op → Reply → Device → Prop} {w w' : Device} {id : Uuid}

theorem smooth {o : Op} {r : Reply} (h : Effect w o r w') (hr : r ≠ .expired)
    (ho : ∀ id, o ≠ .newInstance (some id)) (hlooks : o.looks = false) : Smooth w o r w' :=
  ⟨h, hr, fun id heq => absurd heq (ho id), fun hlook => absurd (hlooks.symm.trans hlook) nofun⟩

theorem looked {s : Snapshot} (h : s.tcpForwards = w.target) (hbackground : w.background = []) :
    Smooth w .snapshot (.seen s) { w with latest := some s } :=
  ⟨.snapshot s h, nofun, nofun, fun _ => hbackground⟩

/-- The start of a router on an idle device, up to the end of its start-up. -/
theorem start_runs {wanted : Option Uuid} {used : List Uuid} {latest : Option Snapshot}
    {log : List Event} {r : Except LaunchError StartOutcome} (hid : id ∈ instances)
    (hfresh : id ∉ used) (hwanted : ∀ other, wanted = some other → other = id)
    (hA : ∀ {w o r w'}, Smooth w o r w' → A w o r w')
    (h : CallRuns A (settle (record id) true) (recorded id used log) w' r) :
    CallRuns A (start (options wanted)) (idle used latest log) w' r := by
  obtain ⟨hnil, hrecord, -, -, -, -⟩ := instances_checked id hid
  obtain ⟨hurl, hseen, -⟩ := tailnet_checked
  have hnew : Smooth (idle used (some seen) log) (.newInstance wanted) (.instance_ id)
      (idle (id :: used) (some seen) log) := by
    refine ⟨.newInstance ?_, nofun, fun other heq => ?_, nofun⟩
    · cases wanted with
      | none => exact hfresh
      | some other => exact hwanted other rfl
    · rw [hwanted other (Op.newInstance.inj heq)]
      exact hfresh
  have hready : CallRuns A (checkReady (ready id) id (options wanted))
      (idle (id :: used) (some seen) (.launched none :: log))
      (idle (id :: used) (some seen) (.launched none :: log)) (.ok 9000) := by
    refine CallRuns.require (decide_eq_true rfl) ?_
    have hready : validateReadyControlUrl (ready id).controlUrl (options wanted) = .ok 9000 := hurl
    rw [hready]
    exact .ret _ _
  have hplan : CallRuns A (planServe id 9000)
      (idle (id :: used) (some seen) (.launched none :: log))
      (idle (id :: used) (some seen) (.launched none :: log)) (.ok (serve id)) := by
    refine CallRuns.bind (CallRuns.ask (hA (looked (s := seen) rfl rfl)) rfl) ?_
    refine CallRuns.require hseen ?_
    exact CallRuns.require rfl (.ret _ _)
  have hwrite : CallRuns A (Call.act (.write (record id)))
      (idle (id :: used) (some seen) (.launched none :: log)) (recorded id used log) (.ok ()) :=
    CallRuns.ask (hA (smooth (.write hrecord (.inl rfl)) nofun nofun rfl)) rfl
  refine CallRuns.bind (CallRuns.ask (hA (smooth (.done rfl) nofun nofun rfl)) rfl) ?_
  refine CallRuns.bind (CallRuns.ask (hA (smooth .read nofun nofun rfl)) rfl) ?_
  refine CallRuns.bind (a := none) (.ret _ _) ?_
  refine CallRuns.bind (a := some seen) (CallRuns.bind
    (CallRuns.ask (hA (looked (s := seen) rfl rfl)) rfl) (.ret _ _)) ?_
  refine CallRuns.bind (a := .tailscale) (.ret _ _) ?_
  refine CallRuns.bind (CallRuns.ask (hA hnew) rfl) ?_
  refine CallRuns.require (by rw [hnil]; rfl) ?_
  refine CallRuns.bind (CallRuns.ask (hA (smooth (.done rfl) nofun nofun rfl)) rfl) ?_
  refine CallRuns.bind (a := ready id) (CallRuns.attempt
    (CallRuns.ask (hA (smooth (.launch id true (ready id)) nofun nofun rfl)) rfl) (.ret _ _)) ?_
  refine CallRuns.bind (CallRuns.attempt hready (.ret _ _)) ?_
  refine CallRuns.bind (a := some (serve id))
    (CallRuns.bind (CallRuns.attempt hplan (.ret _ _)) (.ret _ _)) ?_
  refine CallRuns.bind (CallRuns.attempt hwrite (.ret _ _)) ?_
  refine CallRuns.bind (CallRuns.attempt
    (CallRuns.ask (hA (smooth (.done rfl) nofun nofun rfl)) rfl) (.ret _ _)) ?_
  exact h

/-- A clean-up that forgets the record. -/
theorem forget_runs {found : RuntimeRecord} (hA : ∀ {w o r w'}, Smooth w o r w' → A w o r w')
    (hcleanup : CallRuns A (cleanupOwnedServe found) w w' (.ok ())) (hdisk : w'.disk = some found) :
    CallRuns A (cleanupFailedStart found) w { w' with disk := none } (.ok ()) := by
  have hremoved : w'.removed found.instanceId = { w' with disk := none } := by
    unfold Device.removed
    rw [hdisk]
    exact if_pos (decide_eq_true rfl)
  refine CallRuns.attempt hcleanup ?_
  refine CallRuns.attempt (CallRuns.ask (hA (smooth (.done rfl) nofun nofun rfl)) rfl) ?_
  exact hremoved ▸ CallRuns.ask (hA (smooth (.remove (.inl rfl)) nofun nofun rfl)) rfl

/-- The device after the mapping of the port has been switched off. -/
def unmapped (id : Uuid) (w : Device) : Device :=
  (w.note (.disabled (serve id) (w.target 9000) w.disk)).map 9000 none

/-- The clean-up that finds the mapping and switches it off. -/
theorem unmap_runs (found : RuntimeRecord) (hid : found.instanceId ∈ instances)
    (hserve : found.ownedServe = some (serve found.instanceId))
    (hlook : TimelyAnswers w .snapshot (.seen mapped) w')
    (hmapped : mapped.tcpForwards = w'.target) (hbackground : w'.background = []) :
    CallRuns TimelyAnswers (cleanupOwnedServe found) w
      { unmapped found.instanceId w' with latest := some seen } (.ok ()) := by
  obtain ⟨-, -, -, -, hvalid, htarget⟩ := instances_checked _ hid
  have hgone : seen.tcpForwards = (unmapped found.instanceId w').target := by
    funext port
    refine Eq.trans ?_ (target_map _ 9000 none port).symm
    split
    · rfl
    · next hport =>
      refine Eq.trans ?_ (congrFun hmapped port)
      exact (if_neg hport).symm
  unfold cleanupOwnedServe
  rw [hserve]
  refine CallRuns.require hvalid ?_
  refine CallRuns.bind (CallRuns.ask hlook rfl) ?_
  refine CallRuns.require tailnet_checked.2.2 ?_
  refine CallRuns.require (decide_eq_true htarget.symm) ?_
  refine CallRuns.bind (CallRuns.ask (smooth (o := .disable (serve found.instanceId))
    (.disable (.inl rfl)) nofun nofun rfl).timely rfl) ?_
  refine CallRuns.bind (CallRuns.ask (looked hgone hbackground).timely rfl) ?_
  exact CallRuns.require tailnet_checked.2.1 (.ret _ _)

end

def quiet : Device := idle [] none []

/-- The device after a start-up was given up while its mapping was enabled. -/
def cut : Device :=
  { idle [instance1] (some seen) [.enabled (serve instance1) (some seen), .launched none] with
    background := [serve instance1] }

/-- The start-up of a router whose deadline passes while its mapping is enabled. -/
theorem finish_cut {A : Device → Op → Reply → Device → Prop} {w w' : Device}
    (hA : ∀ {w o r w'}, Smooth w o r w' → A w o r w')
    (hexpired : A w (.timed (.enable (serve instance1))) .expired w') :
    CallRuns A (Call.timed (finishStart (record instance1))) w w' (.error .startupTimeout) := by
  obtain ⟨-, -, -, hmarker, -, -⟩ := instances_checked instance1 List.mem_cons_self
  refine CallRuns.timed_bind hA (a := .ok (marker instance1))
    (CallRuns.ask (smooth (.marker _ _) nofun nofun rfl) rfl) ?_
  refine CallRuns.timed_bind hA (CallRuns.verified hmarker) ?_
  refine CallRuns.timed_bind hA
    (CallRuns.ask (smooth (.done rfl) nofun nofun rfl) rfl) ?_
  exact CallRuns.expired (o := .enable (serve instance1)) rfl hexpired

theorem start_cut : CallRuns Answers (start (options none)) quiet cut (.error .startupTimeout) := by
  refine start_runs List.mem_cons_self List.not_mem_nil nofun Smooth.answers ?_
  refine CallRuns.attempt (finish_cut Smooth.answers (Effect.detached _).answers) ?_
  have hcleanup : CallRuns Answers (cleanupOwnedServe (record instance1))
      { cut with disk := some (record instance1) } { cut with disk := some (record instance1) }
      (.ok ()) := by
    refine CallRuns.require (instances_checked instance1 List.mem_cons_self).2.2.2.2.1 ?_
    refine CallRuns.bind (CallRuns.ask (Effect.snapshot seen rfl).answers rfl) ?_
    exact CallRuns.require tailnet_checked.2.1 (.ret _ _)
  exact CallRuns.bind (forget_runs Smooth.answers hcleanup rfl) (.ret _ _)

theorem quiet_initial : quiet.Initial :=
  ⟨nofun, nofun, rfl, rfl, rfl⟩

end Sample

open Sample in
/-- The command that was left behind enables the mapping of a router that is gone. -/
theorem mapping_orphaned : quiet.Initial ∧ ∃ w, Prog.Reaches Answers IsCall
    (Relation.ReflTransGen Change) quiet w none ∧ w.disk = none ∧ ¬ w.Owned := by
  have hcall : Prog.Runs Answers ((start (options none)).bind fun _ => .ret ()) quiet cut () :=
    Prog.Runs.bind start_cut (.ret _ _)
  have hrun : Prog.Reaches Answers IsCall (Relation.ReflTransGen Change) quiet cut none :=
    (Prog.Reaches.begin .start (.start (options none))).runs hcall
  have hlate : Change cut { cut.enabled (serve instance1) with background := [] } :=
    .late List.mem_cons_self
  refine ⟨quiet_initial, _, .crash hrun (.single hlate), rfl, fun howned => ?_⟩
  obtain ⟨found, hfound, -⟩ :=
    howned 9000 ⟨OwnedServe.loopbackTarget 9000, some instance1⟩ instance1 rfl rfl
  cases hfound

namespace Sample

/-- The device when the deadline has passed while the mapping was enabled. -/
def left : Device :=
  { (recorded instance1 [] []).note (.enabled (serve instance1) (some seen)) with
    background := [serve instance1] }

/-- The command that was left behind has taken effect, and the clean-up has seen it. -/
def landed : Device :=
  { left.enabled (serve instance1) with background := [], latest := some mapped }

/-- The device after the clean-up. -/
def gaveUp : Device :=
  idle [instance1] (some seen)
    [.disabled (serve instance1) (some (serve instance1).target) (some (record instance1)),
      .enabled (serve instance1) (some seen), .launched none]

/-- The device on which the router of the second start runs. -/
def running : Device :=
  { ((recorded instance2 [instance1] gaveUp.log).note
      (.enabled (serve instance2) (some seen))).enabled (serve instance2) with
    disk := some (advertised instance2), latest := some mapped }

/-- A mapping of the port is what the snapshot of the mapped router shows. -/
theorem mapped_target {w : Device} {id : Uuid} (hid : id ∈ instances)
    (hserve : w.serve = fun _ => none) : mapped.tcpForwards = (w.enabled (serve id)).target := by
  funext port
  refine Eq.trans ?_ (target_map _ 9000 (some ⟨(serve id).target, some id⟩) port).symm
  rw [Option.map_some, (instances_checked id hid).2.2.2.2.2, Device.target, hserve]
  rfl

/-- The deadline passes while the mapping is enabled; the clean-up finds it and switches it off. -/
theorem start_gaveUp :
    CallRuns TimelyAnswers (start (options none)) quiet gaveUp (.error .startupTimeout) := by
  refine start_runs List.mem_cons_self List.not_mem_nil nofun Smooth.timely ?_
  have hleft : TimelyAnswers (recorded instance1 [] []) (.timed (.enable (serve instance1)))
      .expired left := ⟨(Effect.detached _).answers, nofun, nofun⟩
  have hmapped : mapped.tcpForwards = (left.enabled (serve instance1)).target :=
    mapped_target List.mem_cons_self rfl
  have hlook : TimelyAnswers left .snapshot (.seen mapped) landed :=
    ⟨⟨_, .single (.late List.mem_cons_self), .snapshot mapped hmapped⟩, fun _ _ => rfl, nofun⟩
  have hcleanup : CallRuns TimelyAnswers (cleanupOwnedServe (record instance1)) left
      { unmapped instance1 landed with latest := some seen } (.ok ()) :=
    unmap_runs (record instance1) List.mem_cons_self rfl hlook hmapped rfl
  have hserve : (unmapped instance1 landed).serve = fun _ => none := by
    funext port
    show Function.update (Function.update _ 9000 _) 9000 _ port = _
    rw [Function.update_idem, Function.update_apply, ite_eq_left_iff]
    exact fun _ => rfl
  have hgone : { unmapped instance1 landed with disk := none, latest := some seen } = gaveUp :=
    congrArg (fun serve => { gaveUp with serve }) hserve
  have hforgotten : CallRuns TimelyAnswers (cleanupFailedStart (record instance1)) left gaveUp
      (.ok ()) := hgone ▸ forget_runs Smooth.timely hcleanup rfl
  refine CallRuns.attempt (finish_cut Smooth.timely hleft) ?_
  exact CallRuns.bind hforgotten (.ret _ _)

theorem running_target : mapped.tcpForwards = running.target :=
  mapped_target (w := recorded instance2 [instance1] gaveUp.log) (by decide) rfl

/-- A start-up within its deadline. -/
theorem finish_runs : CallRuns TimelyAnswers (Call.timed (finishStart (record instance2)))
    (recorded instance2 [instance1] gaveUp.log) running (.ok (advertised instance2)) := by
  obtain ⟨-, -, hadvertised, hmarker, -, htarget⟩ := instances_checked instance2 (by decide)
  refine CallRuns.timed_bind Smooth.timely (a := .ok (marker instance2))
    (CallRuns.ask (smooth (.marker _ _) nofun nofun rfl) rfl) ?_
  refine CallRuns.timed_bind Smooth.timely (CallRuns.verified hmarker) ?_
  refine CallRuns.timed_bind Smooth.timely
    (CallRuns.ask (smooth (.done rfl) nofun nofun rfl) rfl) ?_
  have hpublished : CallRuns Smooth (publishedUrl (record instance2))
      (recorded instance2 [instance1] gaveUp.log)
      { running with disk := some (record instance2) } (.ok "ws://100.64.0.1:9000/ws") := by
    refine CallRuns.bind (CallRuns.ask (smooth (.enable (.inl rfl)) nofun nofun rfl) rfl) ?_
    refine CallRuns.bind
      (CallRuns.ask (looked running_target rfl) rfl) ?_
    refine CallRuns.require tailnet_checked.2.2 ?_
    refine CallRuns.require (decide_eq_true (congrArg some htarget.symm)) ?_
    exact .ret _ _
  refine CallRuns.timed_bind Smooth.timely hpublished ?_
  refine CallRuns.timed_bind Smooth.timely
    (CallRuns.ask (smooth (.write hadvertised (.inl rfl)) nofun nofun rfl) rfl) ?_
  refine CallRuns.timed_bind Smooth.timely
    (CallRuns.ask (smooth (.done rfl) nofun nofun rfl) rfl) ?_
  exact .ret _ _

theorem start_running : CallRuns TimelyAnswers (start (options (some instance2))) gaveUp running
    (.ok (.started (advertised instance2))) := by
  refine start_runs (by decide) (by decide) (fun _ heq => (Option.some.inj heq).symm)
    Smooth.timely ?_
  refine CallRuns.attempt finish_runs ?_
  exact CallRuns.bind
    (CallRuns.ask (smooth (o := .detach) (.done rfl) nofun nofun rfl).timely rfl) (.ret _ _)

/-- The device after that router was stopped. -/
def stopped : Device := { unmapped instance2 running with disk := none, latest := some seen }

theorem recover_runs : CallRuns TimelyAnswers (recoverStale (advertised instance2)) running stopped
    (.ok ()) := by
  have hcleanup : CallRuns TimelyAnswers (cleanupOwnedServe (advertised instance2)) running
      { unmapped instance2 running with latest := some seen } (.ok ()) :=
    unmap_runs (advertised instance2) (by decide) rfl (looked running_target rfl).timely
      running_target rfl
  refine CallRuns.bind hcleanup ?_
  exact CallRuns.ask (smooth (.remove (.inl rfl)) nofun nofun rfl).timely rfl

theorem stop_runs : CallRuns TimelyAnswers (stopLocked (some instance2)) running stopped
    (.ok (.stopped (advertised instance2))) := by
  obtain ⟨-, -, -, hmarker, -, -⟩ := instances_checked instance2 (by decide)
  have hquiet : ∀ o : Op, o.quiet = true →
      CallRuns TimelyAnswers (Call.act o) running running (.ok ()) := fun o ho =>
    CallRuns.ask (smooth (.done ho) nofun (fun id heq => by cases heq; cases ho)
      (looks_of_quiet ho)).timely rfl
  refine CallRuns.bind (hquiet .lock rfl) ?_
  refine CallRuns.bind (CallRuns.ask (smooth .read nofun nofun rfl).timely rfl) ?_
  refine CallRuns.require (by decide) ?_
  refine CallRuns.bind (a := .ok (marker instance2))
    (CallRuns.ask (smooth (.marker _ _) nofun nofun rfl).timely rfl) ?_
  refine CallRuns.bind (CallRuns.verified hmarker) ?_
  refine CallRuns.bind (hquiet (.verifyOwner _) rfl) ?_
  refine CallRuns.bind (hquiet (.shutdown _) rfl) ?_
  refine CallRuns.bind (hquiet (.waitStopped _) rfl) ?_
  exact CallRuns.bind recover_runs (.ret _ _)

end Sample

open Sample in
/-- A start-up that is given up leaves a command behind, which is undone; then a router is started
and stopped. -/
theorem mappings_owned_of_timely_sample :
    (gaveUp.Owned ∧ ∀ e ∈ gaveUp.log, e.Justified) ∧
    (running.target 9000 = some "tcp://127.0.0.1:9000" ∧ running.Owned ∧
      ∀ e ∈ running.log, e.Justified) ∧
    stopped.disk = none ∧ stopped.Owned ∧ ∀ e ∈ stopped.log, e.Justified := by
  have hgaveUp : Prog.Reaches TimelyAnswers IsCall (Relation.ReflTransGen Change) quiet gaveUp
      none := (Prog.Reaches.begin .start (.start (options none))).runs
      (Prog.Runs.bind start_gaveUp (.ret _ _))
  have hrunning := (hgaveUp.begin (.start (options (some instance2)))).runs
    (Prog.Runs.bind start_running (.ret _ _))
  have hstopped := (hrunning.begin (.stop (some instance2))).runs
    (Prog.Runs.bind stop_runs (.ret _ _))
  exact ⟨mappings_owned_of_timely quiet_initial hgaveUp,
    ⟨congrFun running_target.symm 9000, mappings_owned_of_timely quiet_initial hrunning⟩,
    rfl, mappings_owned_of_timely quiet_initial hstopped⟩

end SessionRouter.Launcher
