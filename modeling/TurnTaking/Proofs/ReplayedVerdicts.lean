import TurnTaking.Proofs.ReplayedAgain
import TurnTaking.Proofs.SharedSettings

namespace TurnTaking

namespace Decision

variable (d : Decision)

lemma get?_action : d.toJson.normal.get? "action" = some (.text d.action.name) := by
  rw [normal_toJson]
  rfl

lemma get?_reason : d.toJson.normal.get? "reason" = some (.text d.reason) := by
  rw [normal_toJson]
  rfl

end Decision

namespace Replayed

def verdict (w : World) (o : LoadOptions) (d : Replayed) : Report :=
  Report.verdict w o d.transcript.text d.transcript.agentSpeaking d.transcript.agentState

variable {w : World} {o : LoadOptions} {f : Filter} {d : Replayed}

lemma verdict_eq (hf : Filter.load w o = .ok f)
    (hd : d.decision = (f.evaluate 0 d.transcript).decision) :
    ∃ log, d.verdict w o = .success "classify" (d.decision.action.name ++ ": " ++ d.decision.reason)
      d.decision.toJson.normal log := by
  rw [hd]
  exact ⟨_, Report.verdict_of_load hf _ _ _⟩

end Replayed

namespace Report

variable {w : World} {o : LoadOptions} {path : String}

theorem replay_agrees_with_verdicts (h : (replay w o path).exitCode = 0) :
    ∃ f text, Filter.load w o = .ok f ∧ w.contents path = .ok text ∧
      let records := SessionRecord.numbered 1 (Text.lines text)
      let decided := (records.filter fun k => k.2.isFinal).map (Replayed.ofRecord f)
      let filtered := decided.countP fun d => d.decision.action = .filter
      let allowed := decided.countP fun d => d.decision.action = .allow
      Text.lines (replay w o path).output =
        decided.map (fun d => d.toJson.toLine) ++
          [Replay.summaryLine filtered allowed (records.countP fun k => !k.2.isFinal)] ∧
      ∀ d ∈ decided, ∃ data action reason,
        d.toJson = .object [("decision", data), ("line", .ofNat d.line),
          ("transcript", .object [("agent_speaking", .boolean d.transcript.agentSpeaking),
            ("agent_state", .ofText? d.transcript.agentState),
            ("text", .text d.transcript.text)])] ∧
        data.get? "action" = some (.text action) ∧ data.get? "reason" = some (.text reason) ∧
        ∀ w' o', Settings.load w' o' = Settings.load w o →
          (d.verdict w' o').exitCode = 0 ∧
          (d.verdict w' o').output =
            (Json.object [("command", .text "classify"), ("status", .text "ok"),
              ("error_class", .null), ("message", .text (action ++ ": " ++ reason)),
              ("data", data)]).toLine := by
  obtain ⟨s, text, hs, ht, hr⟩ := readable_of_exitCode h
  obtain ⟨f, hp, -, hload⟩ := Filter.exists_load s
  have hf := hload w o hs
  refine ⟨f, text, hf, ht, ?_⟩
  intro records decided filtered allowed
  refine ⟨(replay_of_readable hf hp ht hr).2, ?_⟩
  intro d hd
  refine ⟨d.decision.toJson.normal, d.decision.action.name, d.decision.reason, d.toJson_eq,
    d.decision.get?_action, d.decision.get?_reason, ?_⟩
  intro w' o' hs'
  obtain ⟨log, hv⟩ := Replayed.verdict_eq (hload w' o' (hs'.trans hs)) (Replayed.decision_of_mem hd)
  rw [hv]
  exact ⟨rfl, rfl⟩

theorem replay_agrees_with_verdicts_quotes :
    let lines := [
      "\x7b\"text\":\"wa\",\"agent_speaking\":true,\"is_final\":false\x7d",
      "\x7b\"text\":\"say \\\"yeah\\\"\",\"agent_speaking\":true,\"agent_state\":\"busy\"\x7d"]
    let environment := [("BACKCHANNEL_FILTER_IGNORE_LIST", "yeah")]
    let w := World.ofLists [("s.jsonl", .ok (String.intercalate "\n" lines))] environment
    (replay w {} "s.jsonl").exitCode = 0 ∧
      ∃ data,
        (Text.lines (replay w {} "s.jsonl").output).head? =
          some (Json.object [("decision", data), ("line", .ofNat 2),
            ("transcript", .object [("agent_speaking", .boolean true),
              ("agent_state", .text "busy"), ("text", .text "say \"yeah\"")])]).toLine ∧
        (verdict (.ofLists [] environment) {} "say \"yeah\"" true (some "busy")).output =
          (Json.object [("command", .text "classify"), ("status", .text "ok"),
            ("error_class", .null),
            ("message", .text "allow: Command words detected, allowing interruption"),
            ("data", data)]).toLine := by
  intro lines environment w
  have hs : Settings.load w {} = .ok { filter := { ignoreList := ⟨["yeah"]⟩ } } := by
    decide +kernel
  have hs' : Settings.load (.ofLists [] environment) {} = Settings.load w {} := by decide +kernel
  have hlines : Text.lines (String.intercalate "\n" lines) = lines :=
    Text.lines_of_isFileOf (Or.inl rfl) (by decide +kernel) (by decide +kernel)
  have hr : SessionRecord.Readable lines := by decide +kernel
  have h : (replay w {} "s.jsonl").exitCode = 0 := by
    rw [← hlines] at hr
    exact (replay_of_readable (Filter.load_of_settings hs) (FilterConfig.policy_folded _) rfl hr).1
  obtain ⟨f, text, hf, ht, hout, hall⟩ := replay_agrees_with_verdicts h
  obtain rfl : _ = f := Except.ok.inj ((Filter.load_of_settings hs).symm.trans hf)
  obtain rfl : String.intercalate "\n" lines = text := Except.ok.inj ht
  have hn : SessionRecord.numbered 1 lines =
      [(1, ⟨⟨"wa", true, none⟩, false⟩), (2, ⟨⟨"say \"yeah\"", true, some "busy"⟩, true⟩)] := by
    decide +kernel
  rw [hlines, hn] at hout hall
  let d := Replayed.ofRecord (.ofValidated (FilterConfig.folded { ignoreList := ⟨["yeah"]⟩ }))
    (2, ⟨⟨"say \"yeah\"", true, some "busy"⟩, true⟩)
  have hmessage : d.decision.action.name ++ ": " ++ d.decision.reason =
      "allow: Command words detected, allowing interruption" := by
    decide +kernel
  obtain ⟨data, action, reason, hd, ha, hreason, hverdict⟩ := hall d List.mem_cons_self
  refine ⟨h, data, ?_, ?_⟩
  · rw [hout]
    exact congrArg (fun j : Json => some j.toLine) hd
  · have hdata := congrArg (Json.get? "decision") hd
    rw [Replayed.get?_decision] at hdata
    obtain rfl : _ = data := Option.some.inj hdata
    obtain rfl := Json.text.inj (Option.some.inj ((Decision.get?_action _).symm.trans ha))
    obtain rfl := Json.text.inj (Option.some.inj ((Decision.get?_reason _).symm.trans hreason))
    rw [← hmessage]
    exact (hverdict _ {} hs').2

end Report

end TurnTaking
