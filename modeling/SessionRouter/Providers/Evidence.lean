import SessionRouter.Providers.CodexSpec
import SessionRouter.Providers.ClaudeSpec

/-!
Both actors give results and evidence exactly once, and true evidence, in every run whose turns
reach the child and whose child is reaped.
-/

namespace SessionRouter.Providers

/-- Neither actor forgets a turn, tells of its end too early, or starts another one before; and
every command it accepts becomes a turn. -/
theorem evidence_of_orderly (threadId : String) (rpcTimeout : ℕ) (codexInputs : List Codex.Input)
    (parseUuid : String → Option Uuid) (claudeInputs : List Claude.Input) :
    (Codex.OrderlyRun threadId rpcTimeout {} codexInputs →
      let a := Codex.run threadId rpcTimeout {} codexInputs
      Truthful (Codex.ended threadId) a.view a.log ∧ (a.phase = .finished → a.view = none) ∧
        (a.view.isSome → Codex.Drains threadId rpcTimeout a) ∧
        ∀ before request now io after, codexInputs = before ++ .handle request now io :: after →
          let past := Codex.run threadId rpcTimeout {} before
          Handled a.view past.log a.log request.requestId (past.Accepts request now)) ∧
    (Claude.OrderlyRun parseUuid {} claudeInputs →
      let a := Claude.run parseUuid {} claudeInputs
      Truthful Claude.ended a.view a.log ∧ (a.phase = .finished → a.view = none) ∧
        (a.view.isSome → Claude.Drains parseUuid a) ∧
        ∀ before request now io after, claudeInputs = before ++ .handle request now io :: after →
          let past := Claude.run parseUuid {} before
          Handled a.view past.log a.log request.requestId (past.Accepts request now)) := by
  constructor
  · intro ho a
    have h : Codex.Inv threadId a := Codex.Inv.initial.run ho
    refine ⟨h.balanced.toTruthful, ?_, ?_, ?_⟩
    · intro hfinished
      rw [Codex.view, h.finished hfinished]
      rfl
    · intro hopen
      have hactive : a.active.isSome := by simpa [Codex.view] using hopen
      cases hphase : a.phase with
      | running => exact Codex.drains_of_open hphase hactive
      | stopping error close => exact Codex.drains_stopped hphase
      | finished =>
        rw [h.finished hphase] at hactive
        cases hactive
    · rintro before request now io after rfl
      exact Codex.Inv.initial.handled ho
  · intro ho a
    have h : Claude.Inv a := Claude.Inv.initial.run ho
    refine ⟨h.balanced.toTruthful, ?_, ?_, ?_⟩
    · intro hfinished
      rw [Claude.view, h.finished hfinished]
      rfl
    · intro hopen
      have hactive : a.active.isSome := by simpa [Claude.view] using hopen
      cases hphase : a.phase with
      | running closing => exact Claude.drains_of_open hphase hactive
      | stopping error close graceful => exact Claude.drains_stopped hphase
      | finished =>
        rw [h.finished hphase] at hactive
        cases hactive
    · rintro before request now io after rfl
      exact Claude.Inv.initial.handled ho

namespace Sample

def request : SessionRequest where
  requestId := "r"
  content := "hello"
  deadline := 1000

/-- A turn that the child ends and a turn that the child does not survive. -/
def codexInputs : List Codex.Input :=
  [.handle request 0 (.ok ()),
    .wire (.message (.object [("id", .posInt 3), ("result",
      .object [("turn", .object [("id", .string "u")])])]) 40) (.ok ()),
    .wire (.message (.object [("method", .string "turn/completed"), ("params",
      .object [("threadId", .string "t"), ("turn", .object [("id", .string "u"),
        ("status", .string "completed")])])]) 90) (.ok ()),
    .handle request 10 (.ok ()), .wire .eof (.ok ()), .reap true]

def claudeInputs : List Claude.Input :=
  [.handle request 0 (.ok ()), .close 10 (.ok ()), .closeDeadline 5010, .reap true]

theorem codexInputs_orderly : Codex.OrderlyRun "t" 5000 {} codexInputs :=
  ⟨fun _ _ _ => rfl, trivial, trivial, fun _ _ _ => rfl, trivial, fun _ => rfl, trivial⟩

theorem claudeInputs_orderly : Claude.OrderlyRun (fun _ => none) {} claudeInputs :=
  ⟨fun _ _ _ => rfl, trivial, trivial, fun _ => rfl, trivial⟩

/-- The first turn has ended, so the second command is accepted. -/
theorem codexInputs_checked :
    (Codex.run "t" 5000 {} codexInputs).phase = .finished ∧
      (Codex.run "t" 5000 {} (codexInputs.take 3)).Accepts request 10 ∧
      (Codex.run "t" 5000 {} codexInputs).log.evidences.map TerminalEvidence.childReaped =
        [false, true] := by
  have hchecked : (Codex.run "t" 5000 {} codexInputs).phase = .finished ∧
      (Codex.run "t" 5000 {} codexInputs).log.evidences.map TerminalEvidence.childReaped =
        [false, true] ∧
      (Codex.run "t" 5000 {} (codexInputs.take 3)).phase = .running ∧
      (Codex.run "t" 5000 {} (codexInputs.take 3)).active.isNone = true ∧
      (Codex.run "t" 5000 {} (codexInputs.take 3)).state = .idle := by decide +kernel
  obtain ⟨hended, hreaped, hrunning, hnone, hidle⟩ := hchecked
  refine ⟨hended, ⟨hrunning, Option.isNone_iff_eq_none.mp hnone, ?_, by decide⟩, hreaped⟩
  rw [hidle]
  nofun

theorem evidence_of_orderly_sample :
    (let a := Codex.run "t" 5000 {} codexInputs
     Truthful (Codex.ended "t") a.view a.log ∧ a.view = none ∧
        a.log.evidences.map TerminalEvidence.childReaped = [false, true] ∧
        Evidenced a.view (Codex.run "t" 5000 {} (codexInputs.take 3)).log a.log "r") ∧
    let a := Claude.run (fun _ => none) {} claudeInputs
    Truthful Claude.ended a.view a.log ∧ a.view = none ∧
      a.log.evidences.map TerminalEvidence.childReaped = [true] ∧
      Evidenced a.view [] a.log "r" := by
  obtain ⟨hcodex, hclaude⟩ :=
    evidence_of_orderly "t" 5000 codexInputs (fun _ => none) claudeInputs
  obtain ⟨hcodex, hcodexEnd, -, hcodexTurn⟩ := hcodex codexInputs_orderly
  obtain ⟨hclaude, hclaudeEnd, -, hclaudeTurn⟩ := hclaude claudeInputs_orderly
  obtain ⟨hended, haccepts, hreaped⟩ := codexInputs_checked
  refine ⟨⟨hcodex, hcodexEnd hended, hreaped, ?_⟩, hclaude, hclaudeEnd rfl, by decide +kernel, ?_⟩
  · exact (hcodexTurn (codexInputs.take 3) request 10 (.ok ()) _ rfl).evidence haccepts
  · exact (hclaudeTurn [] request 0 (.ok ()) _ rfl).evidence ⟨⟨false, rfl⟩, rfl, rfl, by decide⟩

end Sample

/-- A turn whose write fails gets no evidence, and a child that cannot be reaped is taken for one
that is gone. -/
theorem evidence_fails :
    (let a := Codex.run "t" 5000 {}
        [.handle Sample.request 0 (.error .providerDisconnected), .reap true]
     a.phase = .finished ∧ ¬Truthful (Codex.ended "t") a.view a.log) ∧
    (let a := Codex.run "t" 5000 {}
        [.handle Sample.request 0 (.ok ()), .wire .eof (.ok ()), .reap false]
     a.phase = .finished ∧ ¬Truthful (Codex.ended "t") a.view a.log) ∧
    (let a := Claude.run (fun _ => none) {}
        [.handle Sample.request 0 (.error .providerDisconnected), .reap true]
     a.phase = .finished ∧ ¬Truthful Claude.ended a.view a.log) ∧
    let a := Claude.run (fun _ => none) {}
      [.handle Sample.request 0 (.ok ()), .wire .eof 0 (.ok ()), .reap false]
    a.phase = .finished ∧ ¬Truthful Claude.ended a.view a.log := by
  refine ⟨⟨rfl, fun h => ?_⟩, ⟨rfl, fun h => ?_⟩, ⟨rfl, fun h => ?_⟩, rfl, fun h => ?_⟩
  · have hids : ["r"] = ([] : List String) := h.evidence
    cases hids
  · obtain ⟨rpcId, -, hreaped | ⟨turnId, ⟨v, hv, -⟩, -⟩⟩ :=
      h.fitting [.command 0, .turn 0 "r" 3, .result 0 (.failure .providerDisconnected)]
        (.evidence { requestId := "r", reason := .sessionEnded, childReaped := false }) [] rfl
    · have hreaped : Entry.reaped ∈ [Entry.result 0 (.failure .providerDisconnected)] := hreaped
      simp at hreaped
    · have hv : v ∈ ([] : List Value) := hv
      cases hv
  · have hids : ["r"] = ([] : List String) := h.evidence
    cases hids
  · obtain ⟨rpcId, -, hreaped | ⟨v, hv, -⟩⟩ :=
      h.fitting [.command 0, .turn 0 "r" 2, .result 0 (.failure .providerDisconnected)]
        (.evidence { requestId := "r", reason := .turnEnded, childReaped := false }) [] rfl
    · have hreaped : Entry.reaped ∈ [Entry.result 0 (.failure .providerDisconnected)] := hreaped
      simp at hreaped
    · have hv : v ∈ ([] : List Value) := hv
      cases hv

end SessionRouter.Providers
