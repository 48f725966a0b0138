import Mathlib.Data.List.Permutation
import TurnTaking.Proofs.JsonScanning
import TurnTaking.Proofs.Replaying

namespace TurnTaking

namespace Text

def IsFileOf (ls : List String) (text : String) : Prop :=
  text = String.intercalate "\n" ls ∨ text = String.intercalate "\n" (ls ++ [""])

lemma lines_of_isFileOf {ls : List String} {text : String} (h : IsFileOf ls text)
    (hp : ∀ l ∈ ls, Printable l.toList) (hne : ∀ l ∈ ls, l ≠ "") : lines text = ls := by
  rcases h with rfl | rfl
  · rcases List.eq_nil_or_concat ls with rfl | ⟨front, last, rfl⟩
    · rfl
    · rw [List.concat_eq_append] at hp hne ⊢
      exact lines_intercalate (fun l hl => hp l (by simp [hl])) (hp last (by simp))
        (hne last (by simp))
  · have hall : ∀ l ∈ ls ++ [""], Printable l.toList := by
      intro l hl
      rcases List.mem_append.mp hl with hl | hl
      · exact hp l hl
      · obtain rfl := List.mem_singleton.mp hl
        exact printable_nil
    have hr : (ls.map String.toList).map withoutReturn = ls.map String.toList := by
      rw [List.map_map]
      exact List.map_congr_left fun l hl => withoutReturn_of_printable (hp l hl)
    have hm : (ls ++ [""]).map String.toList = ls.map String.toList ++ [[]] := by simp
    rw [lines_eq, pieces_intercalate (by simp) hall, hm, List.dropLast_concat,
      List.getLast?_concat, hr]
    simp [Function.comp_def]

end Text

namespace Json

def outlineOf? : Option String → Outline
  | none => .null
  | some s => .text (.ofText s)

lemma outlined_ofText? (s : Option String) : Outlined (.ofText? s) (outlineOf? s) := by
  cases s with
  | none => exact outlined_null
  | some s => exact outlined_text s

lemma isBlankText_object (members : Members) :
    Text.isBlankText (Json.object members).toLine = false := by
  rw [Text.isBlankText, toLine, String.toList_ofList, write, List.all_cons]
  rfl

end Json

namespace SessionRecord

open Json

def Holds (r : SessionRecord) (line : String) : Prop :=
  Text.isBlankText line = false ∧ read line = .ok r

lemma holds_object {members : Members} {os : List (Option TextToken × Outline)} {r : SessionRecord}
    (h : List.Forall₂ MemberOutlined members os) (hd : decode (.object os .closed) = .ok r) :
    Holds r (Json.object members).toLine := by
  refine ⟨isBlankText_object members, ?_⟩
  rw [read, readWith_toLine _ (outlined_object h), hd]

variable {s : Draft}

lemma readMember_text (h : s.text = none) (text : String) :
    record.readMember s (some (.ofText "text"), .text (.ofText text)) =
      .ok { s with text := some text } := by
  rw [Record.readMember_ofText rfl (by simp [h])]
  simp [decodeText, bind, Except.bind, pure, Except.pure]

lemma readMember_agentSpeaking (h : s.agentSpeaking = none) (speaking : Bool) :
    record.readMember s (some (.ofText "agent_speaking"), .boolean speaking) =
      .ok { s with agentSpeaking := some speaking } := by
  rw [Record.readMember_ofText rfl (by simp [h])]
  rfl

lemma readMember_agentState (h : s.agentState = none) (state : Option String) :
    record.readMember s (some (.ofText "agent_state"), outlineOf? state) =
      .ok { s with agentState := some state } := by
  rw [Record.readMember_ofText rfl (by simp [h])]
  cases state with
  | none => rfl
  | some state =>
    simp [outlineOf?, decodeOption, decodeText, bind, Except.bind, pure, Except.pure, Except.map]

lemma holds_transcript (t : Transcript) :
    Holds ⟨t, true⟩ (Json.object [("agent_speaking", .boolean t.agentSpeaking),
      ("agent_state", .ofText? t.agentState), ("text", .text t.text)]).toLine := by
  have hs := memberOutlined (outlined_boolean t.agentSpeaking) "agent_speaking"
  have ha := memberOutlined (outlined_ofText? t.agentState) "agent_state"
  have ht := memberOutlined (outlined_text t.text) "text"
  apply holds_object (.cons hs (.cons ha (.cons ht .nil)))
  rw [decode, Record.decode,
    Record.foldlM_readMember (readMember_agentSpeaking rfl t.agentSpeaking),
    Record.foldlM_readMember (readMember_agentState rfl t.agentState),
    Record.foldlM_readMember (readMember_text rfl t.text)]
  rfl

lemma holds_utterance {members : Members} {text : String} {speaking : Bool}
    (h : members.Perm [("text", .text text), ("agent_speaking", .boolean speaking)]) :
    Holds ⟨⟨text, speaking, none⟩, true⟩ (Json.object members).toLine := by
  have ht := memberOutlined (outlined_text text) "text"
  have hs := memberOutlined (outlined_boolean speaking) "agent_speaking"
  rcases List.perm_pair.mp h with rfl | rfl
  · apply holds_object (.cons ht (.cons hs .nil))
    rw [decode, Record.decode, Record.foldlM_readMember (readMember_text rfl text),
      Record.foldlM_readMember (readMember_agentSpeaking rfl speaking)]
    rfl
  · apply holds_object (.cons hs (.cons ht .nil))
    rw [decode, Record.decode, Record.foldlM_readMember (readMember_agentSpeaking rfl speaking),
      Record.foldlM_readMember (readMember_text rfl text)]
    rfl

lemma numbered_of_holds {rs : List SessionRecord} {lines : List String}
    (h : List.Forall₂ Holds rs lines) (n : Nat) :
    numbered n lines = (rs.zipIdx n).map Prod.swap := by
  induction h generalizing n with
  | nil => rfl
  | cons hr _ ih => rw [numbered_cons_record hr.1 hr.2, ih, List.zipIdx_cons, List.map_cons]; rfl

lemma readable_of_holds {rs : List SessionRecord} {lines : List String}
    (h : List.Forall₂ Holds rs lines) : Readable lines := by
  induction h with
  | nil => simp [Readable]
  | cons hr _ ih =>
    intro line hline hb
    rcases List.mem_cons.mp hline with rfl | hline
    · exact ⟨_, hr.2⟩
    · exact ih line hline hb

end SessionRecord

namespace Text

lemma lines_of_objects {ls : List String} {text : String} (h : IsFileOf ls text)
    (hl : ∀ l ∈ ls, ∃ members : Json.Members, l = (Json.object members).toLine) :
    lines text = ls := by
  apply lines_of_isFileOf h
  · intro l hmem
    obtain ⟨members, rfl⟩ := hl l hmem
    exact Json.printable_toLine _
  · intro l hmem he
    obtain ⟨members, hm⟩ := hl l hmem
    have hb := Json.isBlankText_object members
    rw [← hm, he] at hb
    cases hb

end Text

namespace Replay

def summaryLine (filtered allowed partials : Nat) : String :=
  (Json.object [("command", .text "replay"), ("status", .text "ok"), ("error_class", .null),
    ("message", .text ("replayed " ++ toString (filtered + allowed) ++ " transcripts (" ++
      toString filtered ++ " filtered, " ++ toString allowed ++ " allowed, " ++
      toString partials ++ " partial skipped)")),
    ("data", .object [("allowed", .ofNat allowed), ("decided", .ofNat (filtered + allowed)),
      ("filtered", .ofNat filtered), ("pending", .ofNat 0),
      ("skipped_partial", .ofNat partials)])]).toLine

def linesOf (decided : List Replayed) (partials : Nat) : List String :=
  decided.map (fun d => d.toJson.toLine) ++
    [summaryLine (decided.countP fun d => d.decision.action = .filter)
      (decided.countP fun d => d.decision.action = .allow) partials]

lemma output_ofRecords (f : Filter) (session : String) (records : List (Nat × SessionRecord)) :
    (ofRecords f session records).output =
      linesOf ((records.filter fun k => k.2.isFinal).map (Replayed.ofRecord f))
        (records.countP fun k => !k.2.isFinal) := by
  have hp := count_pending f session records
  have hd := length_decided (ofRecords f session records)
  rw [hp, Nat.add_zero] at hd
  simp only [output, message_eq, summary_eq, hp, hd, count_eq]
  rfl

end Replay

namespace Replayed

def ofTranscripts (f : Filter) (ts : List Transcript) : List Replayed :=
  (ts.zipIdx 1).map fun (t, k) => ⟨k, t, (f.evaluate 0 t).decision⟩

lemma ofRecord_finals (f : Filter) (ts : List Transcript) :
    (((ts.map fun t => (⟨t, true⟩ : SessionRecord)).zipIdx 1).map Prod.swap).map (ofRecord f) =
      ofTranscripts f ts := by
  rw [List.zipIdx_map, List.map_map, List.map_map]
  rfl

lemma decision_of_mem_ofTranscripts {f : Filter} {ts : List Transcript} {d : Replayed}
    (h : d ∈ ofTranscripts f ts) : d.decision = (f.evaluate 0 d.transcript).decision := by
  obtain ⟨k, -, rfl⟩ := List.mem_map.mp h
  rfl

lemma map_line_ofTranscripts (f : Filter) (ts : List Transcript) :
    (ofTranscripts f ts).map line = List.range' 1 ts.length := by
  rw [ofTranscripts, List.map_map, ← List.zipIdx_map_snd 1 ts]
  rfl

end Replayed

namespace Report

variable {w : World} {o : LoadOptions} {f : Filter} {path text : String}

lemma replay_of_readable (hf : Filter.load w o = .ok f) (hp : f.config.policy = none)
    (ht : w.contents path = .ok text) (hr : SessionRecord.Readable (Text.lines text)) :
    let records := SessionRecord.numbered 1 (Text.lines text)
    (replay w o path).exitCode = 0 ∧
      Text.lines (replay w o path).output =
        Replay.linesOf ((records.filter fun k => k.2.isFinal).map (Replayed.ofRecord f))
          (records.countP fun k => !k.2.isFinal) := by
  intro records
  rw [replay_eq hf hp ht hr, ofReplay, Replay.lines_output, Replay.output_ofRecords]
  exact ⟨rfl, rfl⟩

lemma replay_of_transcripts {ts : List Transcript} (hf : Filter.load w o = .ok f)
    (hp : f.config.policy = none) (ht : w.contents path = .ok text)
    (hl : List.Forall₂ SessionRecord.Holds (ts.map fun t => ⟨t, true⟩) (Text.lines text)) :
    (replay w o path).exitCode = 0 ∧
      Text.lines (replay w o path).output = Replay.linesOf (Replayed.ofTranscripts f ts) 0 := by
  obtain ⟨hexit, hout⟩ := replay_of_readable hf hp ht (SessionRecord.readable_of_holds hl)
  have hrecords := SessionRecord.numbered_of_holds hl 1
  have hfinal : ∀ k ∈ SessionRecord.numbered 1 (Text.lines text), k.2.isFinal = true := by
    intro k hk
    rw [hrecords] at hk
    obtain ⟨⟨r, n⟩, hmem, rfl⟩ := List.mem_map.mp hk
    obtain ⟨t, -, rfl⟩ := List.mem_map.mp (List.fst_mem_of_mem_zipIdx hmem)
    rfl
  have hnone : (SessionRecord.numbered 1 (Text.lines text)).countP (fun k => !k.2.isFinal) = 0 := by
    rw [List.countP_eq_zero]
    intro k hk
    simp [hfinal k hk]
  rw [List.filter_eq_self.mpr hfinal, hnone, hrecords, Replayed.ofRecord_finals] at hout
  exact ⟨hexit, hout⟩

end Report

end TurnTaking
