import TurnTaking.Proofs.UnreadableLines

namespace TurnTaking

namespace Replayed

def renumbered (ds : List Replayed) : List Replayed :=
  (ds.zipIdx 1).map fun (d, k) => { d with line := k }

def transcriptLines (ds : List Replayed) : List String :=
  ds.filterMap fun d => (d.toJson.get? "transcript").map Json.toLine

variable (d : Replayed) {ds : List Replayed} {f : Filter}

lemma get?_transcript : d.toJson.get? "transcript" =
    some (.object [("agent_speaking", .boolean d.transcript.agentSpeaking),
      ("agent_state", .ofText? d.transcript.agentState), ("text", .text d.transcript.text)]) := by
  rw [toJson_eq]
  rfl

lemma get?_decision : d.toJson.get? "decision" = some d.decision.toJson.normal := by
  rw [toJson_eq]
  rfl

lemma holds_transcriptLines (ds : List Replayed) :
    List.Forall₂ SessionRecord.Holds ((ds.map transcript).map fun t => ⟨t, true⟩)
      (transcriptLines ds) := by
  induction ds with
  | nil => exact .nil
  | cons d ds ih =>
    rw [transcriptLines, List.filterMap_cons, get?_transcript]
    exact .cons (SessionRecord.holds_transcript d.transcript) ih

lemma objects_of_mem_transcriptLines :
    ∀ l ∈ transcriptLines ds, ∃ members : Json.Members, l = (Json.object members).toLine := by
  intro l hl
  obtain ⟨d, -, hd⟩ := List.mem_filterMap.mp hl
  rw [get?_transcript] at hd
  exact ⟨_, (Option.some.inj hd).symm⟩

lemma ofTranscripts_transcripts
    (h : ∀ d ∈ ds, d.decision = (f.evaluate 0 d.transcript).decision) :
    ofTranscripts f (ds.map transcript) = renumbered ds := by
  rw [ofTranscripts, renumbered, List.zipIdx_map, List.map_map]
  apply List.map_congr_left
  rintro ⟨d, k⟩ hk
  have hd := h d (List.fst_mem_of_mem_zipIdx hk)
  simp [hd]

lemma map_renumbered {α : Type} {g : Replayed → α} (hg : ∀ d k, g { d with line := k } = g d)
    (ds : List Replayed) : (renumbered ds).map g = ds.map g := by
  calc
    (renumbered ds).map g = ((ds.zipIdx 1).map Prod.fst).map g := by
      rw [renumbered, List.map_map, List.map_map]
      exact List.map_congr_left fun p _ => hg p.1 p.2
    _ = ds.map g := by rw [List.zipIdx_map_fst]

lemma countP_renumbered (a : Action) (ds : List Replayed) :
    (renumbered ds).countP (fun d => d.decision.action = a) =
      ds.countP fun d => d.decision.action = a := by
  have hactions := map_renumbered (g := fun d => d.decision.action) (fun _ _ => rfl) ds
  have hcount := congrArg (List.countP fun b => b = a) hactions
  rwa [List.countP_map, List.countP_map] at hcount

end Replayed

namespace Report

variable {w : World} {o : LoadOptions} {path : String}

lemma readable_of_exitCode (h : (replay w o path).exitCode = 0) :
    ∃ s text, Settings.load w o = .ok s ∧ w.contents path = .ok text ∧
      SessionRecord.Readable (Text.lines text) := by
  cases hs : Settings.load w o with
  | error e =>
    rw [replay_of_error hs] at h
    have h2 := (RunError.exitCode_ofConfig e).symm.trans h
    cases h2
  | ok s =>
    rcases replay_cases hs path with
      ⟨-, -, h3⟩ | ⟨text, ht, hr, -⟩ | ⟨-, -, -, -, -, h3⟩
    · omega
    · exact ⟨s, text, rfl, ht, hr⟩
    · omega

theorem replay_of_output (h : (replay w o path).exitCode = 0) :
    ∃ f text, Filter.load w o = .ok f ∧ w.contents path = .ok text ∧
      let records := SessionRecord.numbered 1 (Text.lines text)
      let decided := (records.filter fun k => k.2.isFinal).map (Replayed.ofRecord f)
      let filtered := decided.countP fun d => d.decision.action = .filter
      let allowed := decided.countP fun d => d.decision.action = .allow
      let again := Replayed.renumbered decided
      Text.lines (replay w o path).output =
        decided.map (fun d => d.toJson.toLine) ++
          [Replay.summaryLine filtered allowed (records.countP fun k => !k.2.isFinal)] ∧
      decided.length = filtered + allowed ∧
      again.map Replayed.line = List.range' 1 decided.length ∧
      again.map (fun d => (d.toJson.get? "transcript", d.toJson.get? "decision")) =
        decided.map (fun d => (d.toJson.get? "transcript", d.toJson.get? "decision")) ∧
      ∀ (w' : World) (o' : LoadOptions) path' text', Settings.load w' o' = Settings.load w o →
        w'.contents path' = .ok text' → Text.IsFileOf (Replayed.transcriptLines decided) text' →
        (replay w' o' path').exitCode = 0 ∧
        Text.lines (replay w' o' path').output =
          again.map (fun d => d.toJson.toLine) ++ [Replay.summaryLine filtered allowed 0] := by
  obtain ⟨s, text, hs, ht, hr⟩ := readable_of_exitCode h
  obtain ⟨f, hp, -, hload⟩ := Filter.exists_load s
  have hf := hload w o hs
  refine ⟨f, text, hf, ht, ?_⟩
  intro records decided filtered allowed again
  have hdecided : ∀ d ∈ decided, d.decision = (f.evaluate 0 d.transcript).decision := by
    intro d hd
    obtain ⟨k, -, rfl⟩ := List.mem_map.mp hd
    rfl
  have hlength : decided.length = filtered + allowed := by
    have hd : decided.length = _ := Replay.length_decided (.ofRecords f path records)
    rw [hd, Replay.count_pending, Nat.add_zero, Replay.count_eq, Replay.count_eq]
    rfl
  have hagain : Replayed.ofTranscripts f (decided.map Replayed.transcript) = again :=
    Replayed.ofTranscripts_transcripts hdecided
  refine ⟨(replay_of_readable hf hp ht hr).2, hlength, ?_, ?_, ?_⟩
  · rw [← hagain, Replayed.map_line_ofTranscripts, List.length_map]
  · apply Replayed.map_renumbered
    intro d k
    rw [Replayed.get?_transcript, Replayed.get?_decision, Replayed.get?_transcript,
      Replayed.get?_decision]
  · intro w' o' path' text' hs' ht' hfile
    have hholds := Replayed.holds_transcriptLines decided
    rw [← Text.lines_of_objects hfile Replayed.objects_of_mem_transcriptLines] at hholds
    obtain ⟨hexit, hout⟩ := replay_of_transcripts (hload w' o' (hs'.trans hs)) hp ht' hholds
    refine ⟨hexit, ?_⟩
    rw [hout, Replay.linesOf, hagain, Replayed.countP_renumbered, Replayed.countP_renumbered]

theorem replay_of_output_three_lines :
    let lines := [
      "[\"yeah\",true]",
      "\x7b\"text\":\"wa\",\"agent_speaking\":true,\"is_final\":false\x7d",
      "\x7b\"agent_state\":null,\"text\":\"go\\ton\",\"agent_speaking\":true,\"id\":[7]\x7d",
      "\x7b\"text\":\"yeah\",\"agent_speaking\":false,\"agent_state\":\"busy\"\x7d"]
    let printed := [
      "\x7b\"agent_speaking\":true,\"agent_state\":null,\"text\":\"yeah\"\x7d",
      "\x7b\"agent_speaking\":true,\"agent_state\":null,\"text\":\"go\\ton\"\x7d",
      "\x7b\"agent_speaking\":false,\"agent_state\":\"busy\",\"text\":\"yeah\"\x7d"]
    let w := World.ofLists [("s.jsonl", .ok (String.intercalate "\n" lines)),
      ("t.jsonl", .ok (String.intercalate "\n" printed))]
      [("BACKCHANNEL_FILTER_IGNORE_LIST", "yeah")]
    (replay w {} "s.jsonl").exitCode = 0 ∧ (replay w {} "t.jsonl").exitCode = 0 ∧
      (Text.lines (replay w {} "s.jsonl").output).getLast? = some (Replay.summaryLine 1 2 1) ∧
      (Text.lines (replay w {} "t.jsonl").output).getLast? = some (Replay.summaryLine 1 2 0) := by
  intro lines printed w
  have hs : Settings.load w {} = .ok { filter := { ignoreList := ⟨["yeah"]⟩ } } := by
    decide +kernel
  have hlines : Text.lines (String.intercalate "\n" lines) = lines :=
    Text.lines_of_isFileOf (Or.inl rfl) (by decide +kernel) (by decide +kernel)
  have hr : SessionRecord.Readable lines := by decide +kernel
  have h : (replay w {} "s.jsonl").exitCode = 0 := by
    rw [← hlines] at hr
    exact (replay_of_readable (Filter.load_of_settings hs) (FilterConfig.policy_folded _) rfl hr).1
  obtain ⟨f, text, hf, ht, hout, -, -, -, hagain⟩ := replay_of_output h
  obtain rfl : _ = f := Except.ok.inj ((Filter.load_of_settings hs).symm.trans hf)
  obtain rfl : String.intercalate "\n" lines = text := Except.ok.inj ht
  have hn : SessionRecord.numbered 1 lines =
      [(1, ⟨⟨"yeah", true, none⟩, true⟩), (2, ⟨⟨"wa", true, none⟩, false⟩),
        (3, ⟨⟨"go\ton", true, none⟩, true⟩), (4, ⟨⟨"yeah", false, some "busy"⟩, true⟩)] := by
    decide +kernel
  rw [hlines, hn] at hout hagain
  obtain ⟨hexit, hout'⟩ := hagain w {} "t.jsonl" (String.intercalate "\n" printed) rfl rfl
    (Or.inl (congrArg (String.intercalate "\n") (by decide +kernel)))
  refine ⟨h, hexit, ?_, ?_⟩
  · rw [hout, List.getLast?_concat]
    refine congrArg some (congrArg₂ (Replay.summaryLine · · 1) ?_ ?_) <;> decide +kernel
  · rw [hout', List.getLast?_concat]
    refine congrArg some (congrArg₂ (Replay.summaryLine · · 0) ?_ ?_) <;> decide +kernel

end Report

end TurnTaking
