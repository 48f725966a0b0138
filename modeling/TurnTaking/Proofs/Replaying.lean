import TurnTaking.Proofs.JsonLines
import TurnTaking.Proofs.LoadedFilter
import TurnTaking.Proofs.PolicyFailures
import TurnTaking.Report.Replay

namespace TurnTaking

namespace SessionRecord

def numbered (n : Nat) (lines : List String) : List (Nat × SessionRecord) :=
  (lines.zipIdx n).filterMap fun (line, k) =>
    if Text.isBlankText line then none else (read line).toOption.map fun r => (k, r)

def Readable (lines : List String) : Prop :=
  ∀ line ∈ lines, Text.isBlankText line = false → ∃ r, read line = .ok r

variable {line : String} {lines : List String} {r : SessionRecord}

lemma mem_numbered {n k : Nat} :
    (k, r) ∈ numbered n lines ↔ n ≤ k ∧ ∃ line, lines[k - n]? = some line ∧
      Text.isBlankText line = false ∧ read line = .ok r := by
  rw [numbered, List.mem_filterMap]
  constructor
  · rintro ⟨⟨line, i⟩, hi, hk⟩
    obtain ⟨hn, hl⟩ := List.mk_mem_zipIdx_iff_le_and_getElem?_sub.mp hi
    cases hb : Text.isBlankText line with
    | true => simp [hb] at hk
    | false =>
      cases hr : read line with
      | error e => simp [hb, hr, Except.toOption] at hk
      | ok r' =>
        simp only [hb, hr, Except.toOption, Bool.false_eq_true, if_false, Option.map_some,
          Option.some.injEq, Prod.mk.injEq] at hk
        obtain ⟨rfl, rfl⟩ := hk
        exact ⟨hn, line, hl, hb, hr⟩
  · rintro ⟨hn, line, hl, hb, hr⟩
    refine ⟨(line, k), List.mk_mem_zipIdx_iff_le_and_getElem?_sub.mpr ⟨hn, hl⟩, ?_⟩
    simp [hb, hr, Except.toOption]

lemma numbered_cons_blank (hb : Text.isBlankText line = true) (n : Nat) :
    numbered n (line :: lines) = numbered (n + 1) lines := by
  simp [numbered, hb]

lemma numbered_cons_record (hb : Text.isBlankText line = false) (hr : read line = .ok r)
    (n : Nat) : numbered n (line :: lines) = (n, r) :: numbered (n + 1) lines := by
  simp [numbered, hb, hr, Except.toOption]

lemma Readable.tail (h : Readable (line :: lines)) : Readable lines :=
  fun l hl => h l (List.mem_cons_of_mem line hl)

@[elab_as_elim]
lemma Readable.induct {P : Nat → List String → Prop} (hnil : ∀ n, P n [])
    (hblank : ∀ n line lines, Text.isBlankText line = true → P (n + 1) lines → P n (line :: lines))
    (hrecord : ∀ n line lines r, Text.isBlankText line = false → read line = .ok r →
      P (n + 1) lines → P n (line :: lines))
    (h : Readable lines) (n : Nat) : P n lines := by
  induction lines generalizing n with
  | nil => exact hnil n
  | cons line lines ih =>
    have hrest := ih h.tail (n + 1)
    cases hb : Text.isBlankText line with
    | true => exact hblank n line lines hb hrest
    | false =>
      obtain ⟨r, hr⟩ := h line List.mem_cons_self hb
      exact hrecord n line lines r hb hr hrest

lemma pairwise_numbered (h : Readable lines) (n : Nat) :
    (numbered n lines).Pairwise fun a b => a.1 < b.1 := by
  refine Readable.induct ?_ ?_ ?_ h n
  · exact fun n => List.Pairwise.nil
  · intro n line lines hb ih
    rw [numbered_cons_blank hb]
    exact ih
  · intro n line lines r hb hr ih
    rw [numbered_cons_record hb hr]
    refine List.pairwise_cons.mpr ⟨?_, ih⟩
    rintro ⟨k, r'⟩ hk
    exact (mem_numbered.mp hk).1

lemma length_numbered (h : Readable lines) (n : Nat) :
    (numbered n lines).length = lines.countP fun line => !Text.isBlankText line := by
  refine Readable.induct ?_ ?_ ?_ h n
  · exact fun n => rfl
  · intro n line lines hb ih
    simp [numbered_cons_blank hb, ih, hb]
  · intro n line lines r hb hr ih
    simp [numbered_cons_record hb hr, ih, hb]

end SessionRecord

def LogEntry.isRecorded : LogEntry → Bool
  | .recorded .. => true
  | _ => false

lemma Filter.log_evaluate_of_no_policy {f : Filter} (hp : f.config.policy = none) (calls : Nat)
    (t : Transcript) :
    (f.evaluate calls t).log = [(f.evaluate calls t).decision.entry t.agentSpeaking] := by
  cases he : f.config.enabled with
  | false => rw [evaluate_of_disabled he]
  | true => rw [evaluate_of_no_policy he hp]

lemma Filter.decision_evaluate_of_no_policy {f : Filter} (hp : f.config.policy = none)
    (calls calls' : Nat) (t : Transcript) :
    (f.evaluate calls t).decision = (f.evaluate calls' t).decision := by
  rw [evaluate, evaluate, decision_of_no_policy hp, decision_of_no_policy hp]

lemma Report.successPayload_toLine_ne (command message : String) (data : Json) :
    (successPayload command message data).toLine ≠ "" := by
  intro h
  have hl := congrArg String.toList h
  rw [Json.toLine, String.toList_ofList, successPayload, Json.write] at hl
  cases hl

lemma Decision.normal_toJson (d : Decision) :
    d.toJson.normal = .object [("action", .text d.action.name),
      ("confidence", .float .double d.confidence), ("metadata", (Json.object d.metadata).normal),
      ("reason", .text d.reason)] := by
  simp only [toJson, Json.normal, Json.normalMembers, Json.Members.ofList, Json.Members.insert,
    List.foldl_cons, List.foldl_nil, String.reduceLT, String.reduceEq, if_true, if_false]

namespace Replayed

def ofRecord (f : Filter) : Nat × SessionRecord → Replayed
  | (k, r) => ⟨k, r.transcript, (f.evaluate 0 r.transcript).decision⟩

def printed (d : Replayed) : Json :=
  .object [
    ("decision", .object [("action", .text d.decision.action.name),
      ("confidence", .float .double d.decision.confidence),
      ("metadata", .object d.decision.metadata), ("reason", .text d.decision.reason)]),
    ("line", .ofNat d.line),
    ("transcript", .object [("agent_speaking", .boolean d.transcript.agentSpeaking),
      ("agent_state", .ofText? d.transcript.agentState), ("text", .text d.transcript.text)])]

def recorded (session : String) (d : Replayed) : LogEntry :=
  .recorded session d.decision.action d.decision.rule? d.decision.confidence
    d.transcript.agentSpeaking d.decision.reason

def entries (emits : Bool) (session : String) (d : Replayed) : Log :=
  .decided d.decision.action d.decision.rule? d.transcript.agentSpeaking d.decision.confidence ::
    if emits then [d.recorded session] else []

lemma toJson_eq (d : Replayed) :
    d.toJson = .object [("decision", d.decision.toJson.normal), ("line", .ofNat d.line),
      ("transcript", .object [("agent_speaking", .boolean d.transcript.agentSpeaking),
        ("agent_state", .ofText? d.transcript.agentState),
        ("text", .text d.transcript.text)])] := by
  cases hs : d.transcript.agentState <;>
    simp only [toJson, Transcript.toJson, Json.normal, Json.normalMembers, Json.Members.ofList,
      Json.Members.insert, Json.ofText?, Json.ofNat, hs, List.foldl_cons, List.foldl_nil,
      String.reduceLT, String.reduceEq, if_true, if_false]

lemma decision_of_mem {f : Filter} {records : List (Nat × SessionRecord)} {d : Replayed}
    (h : d ∈ records.map (ofRecord f)) : d.decision = (f.evaluate 0 d.transcript).decision := by
  obtain ⟨k, -, rfl⟩ := List.mem_map.mp h
  rfl

lemma toJson_eq_printed {f : Filter} (hp : f.config.policy = none) {d : Replayed}
    (hd : d.decision = (f.evaluate 0 d.transcript).decision) : d.toJson = d.printed := by
  rw [Filter.evaluate, Filter.decision_of_no_policy hp] at hd
  rw [toJson_eq, printed, Decision.normal_toJson, hd, Rule.normal_metadata]

lemma map_toLine {f : Filter} (hp : f.config.policy = none) {ds : List Replayed}
    (h : ∀ d ∈ ds, d.decision = (f.evaluate 0 d.transcript).decision) :
    ds.map (fun d => d.toJson.toLine) = ds.map fun d => d.printed.toLine :=
  List.map_congr_left fun d hd => congrArg Json.toLine (toJson_eq_printed hp (h d hd))

lemma action_ofRecord (f : Filter) (k : Nat × SessionRecord) :
    (ofRecord f k).decision.action ≠ .pending := by
  have hd : (ofRecord f k).decision = _ := Filter.judge_eq f 0 _ _ _
  rw [hd]
  exact Rule.action_decision_ne_pending _ _ _

lemma filter_entries (emits : Bool) (session : String) (ds : List Replayed) :
    (ds.flatMap (entries emits session)).filter LogEntry.isRecorded =
      if emits then ds.map (recorded session) else [] := by
  induction ds with
  | nil => cases emits <;> rfl
  | cons d ds ih =>
    rw [List.flatMap_cons, List.filter_append, ih]
    cases emits <;> rfl

end Replayed

namespace Replay

variable {f : Filter} {session line : String} {n : Nat} {lines : List String} {r : SessionRecord}

lemma ofLines_cons_blank (hb : Text.isBlankText line = true) :
    ofLines f session n (line :: lines) = ofLines f session (n + 1) lines := by
  simp [ofLines, hb]

lemma ofLines_cons_partial (hb : Text.isBlankText line = false)
    (hr : SessionRecord.read line = .ok r) (hf : r.isFinal = false) :
    ofLines f session n (line :: lines) =
      let rest := ofLines f session (n + 1) lines
      { rest with skippedPartial := rest.skippedPartial + 1 } := by
  simp [ofLines, hb, hr, hf]

lemma ofLines_cons_final (hp : f.config.policy = none) (hb : Text.isBlankText line = false)
    (hr : SessionRecord.read line = .ok r) (hf : r.isFinal = true) :
    ofLines f session n (line :: lines) =
      let rest := ofLines f session (n + 1) lines
      let d := Replayed.ofRecord f (n, r)
      { rest with
        decided := d :: rest.decided
        log := d.entries f.config.emitEvents session ++ rest.log } := by
  simp only [ofLines, hb, hr, hf, Filter.log_evaluate_of_no_policy hp]
  rfl

def ofRecords (f : Filter) (session : String) (records : List (Nat × SessionRecord)) : Replay :=
  let decided := (records.filter fun k => k.2.isFinal).map (Replayed.ofRecord f)
  { decided
    skippedPartial := records.countP fun k => !k.2.isFinal
    log := decided.flatMap (Replayed.entries f.config.emitEvents session) }

lemma ofLines_eq (hp : f.config.policy = none) (h : SessionRecord.Readable lines) (n : Nat) :
    ofLines f session n lines = ofRecords f session (SessionRecord.numbered n lines) := by
  refine SessionRecord.Readable.induct ?_ ?_ ?_ h n
  · exact fun n => rfl
  · intro n line lines hb ih
    rw [ofLines_cons_blank hb, SessionRecord.numbered_cons_blank hb, ih]
  · intro n line lines r hb hr ih
    rw [SessionRecord.numbered_cons_record hb hr]
    cases hf : r.isFinal with
    | false =>
      rw [ofLines_cons_partial hb hr hf, ih]
      simp [ofRecords, hf]
    | true =>
      rw [ofLines_cons_final hp hb hr hf, ih]
      simp [ofRecords, hf]

lemma length_decided_add_partials (f : Filter) (session : String)
    (records : List (Nat × SessionRecord)) :
    (ofRecords f session records).decided.length + (ofRecords f session records).skippedPartial =
      records.length := by
  have hl := List.length_eq_countP_add_countP (l := records) fun k => k.2.isFinal
  simp only [ofRecords, List.length_map, ← List.countP_eq_length_filter]
  rw [hl]
  simp

lemma count_eq (c : Replay) (a : Action) :
    c.count a = c.decided.countP fun d => d.decision.action = a :=
  List.countP_eq_length_filter.symm

lemma length_decided (c : Replay) :
    c.decided.length = c.count .filter + c.count .allow + c.count .pending := by
  simp only [count_eq]
  induction c.decided with
  | nil => rfl
  | cons d ds ih => cases ha : d.decision.action <;> simp [ha] <;> omega

lemma count_pending (f : Filter) (session : String) (records : List (Nat × SessionRecord)) :
    (ofRecords f session records).count .pending = 0 := by
  simp [count_eq, ofRecords, Replayed.action_ofRecord]

lemma summary_eq (c : Replay) :
    c.summary = .object [("allowed", .ofNat (c.count .allow)), ("decided", .ofNat c.decided.length),
      ("filtered", .ofNat (c.count .filter)), ("pending", .ofNat (c.count .pending)),
      ("skipped_partial", .ofNat c.skippedPartial)] := by
  simp only [summary, Json.normal, Json.normalMembers, Json.Members.ofList, Json.Members.insert,
    Json.ofNat, List.foldl_cons, List.foldl_nil, String.reduceLT, String.reduceEq, if_true,
    if_false]

lemma message_eq (c : Replay) :
    c.message = "replayed " ++ toString c.decided.length ++ " transcripts (" ++
      toString (c.count .filter) ++ " filtered, " ++ toString (c.count .allow) ++ " allowed, " ++
      toString c.skippedPartial ++ " partial skipped)" := rfl

lemma lines_output (c : Replay) : Text.lines (String.intercalate "\n" c.output) = c.output := by
  refine Text.lines_intercalate ?_ (Json.printable_toLine _)
    (Report.successPayload_toLine_ne _ _ _)
  intro line hline
  obtain ⟨d, -, rfl⟩ := List.mem_map.mp hline
  exact Json.printable_toLine _

end Replay

namespace Report

def ofReplay (f : Filter) (c : Replay) : Report :=
  ⟨0, String.intercalate "\n" c.output, f.readyLog ++ c.log⟩

lemma replay_eq {w : World} {o : LoadOptions} {f : Filter} {path text : String}
    (hf : Filter.load w o = .ok f) (hp : f.config.policy = none) (ht : w.contents path = .ok text)
    (hr : SessionRecord.Readable (Text.lines text)) :
    replay w o path =
      .ofReplay f (.ofRecords f path (SessionRecord.numbered 1 (Text.lines text))) := by
  simp only [replay, hf, ht, Replay.ofLines_eq hp hr]
  rfl

/-- The replay of a file of records prints the decision on each final record by itself, under the
number of its line, and then a summary that counts what was printed. -/
theorem replay_of_records {w : World} {o : LoadOptions} {s : Settings} {path text : String}
    (hs : Settings.load w o = .ok s) (ht : w.contents path = .ok text)
    (hr : SessionRecord.Readable (Text.lines text)) :
    ∃ f, Filter.load w o = .ok f ∧
      let report := replay w o path
      let records := SessionRecord.numbered 1 (Text.lines text)
      let decided := (records.filter fun k => k.2.isFinal).map (Replayed.ofRecord f)
      let partials := records.countP fun k => !k.2.isFinal
      let filtered := decided.countP fun d => d.decision.action = .filter
      let allowed := decided.countP fun d => d.decision.action = .allow
      (∀ k r, (k, r) ∈ records ↔ 1 ≤ k ∧ ∃ line, (Text.lines text)[k - 1]? = some line ∧
        Text.isBlankText line = false ∧ SessionRecord.read line = .ok r) ∧
      records.Pairwise (fun a b => a.1 < b.1) ∧
      (∀ d ∈ decided, ∀ calls, d.decision = (f.evaluate calls d.transcript).decision) ∧
      report.exitCode = 0 ∧
      Text.lines report.output =
        decided.map (fun d => d.printed.toLine) ++
        [(Json.object [("command", .text "replay"), ("status", .text "ok"), ("error_class", .null),
          ("message", .text ("replayed " ++ toString decided.length ++ " transcripts (" ++
            toString filtered ++ " filtered, " ++ toString allowed ++ " allowed, " ++
            toString partials ++ " partial skipped)")),
          ("data", .object [("allowed", .ofNat allowed), ("decided", .ofNat decided.length),
            ("filtered", .ofNat filtered), ("pending", .ofNat 0),
            ("skipped_partial", .ofNat partials)])]).toLine] ∧
      decided.length = filtered + allowed ∧
      decided.length + partials = (Text.lines text).countP (fun line => !Text.isBlankText line) ∧
      report.log = f.readyLog ++ decided.flatMap (Replayed.entries s.filter.emitEvents path) ∧
      report.log.filter LogEntry.isRecorded =
        if s.filter.emitEvents then decided.map (Replayed.recorded path) else [] := by
  have hf := Filter.load_of_settings hs
  have hp : (Filter.ofValidated s.filter.toConfig.folded).config.policy = none :=
    FilterConfig.policy_folded _
  have he : (Filter.ofValidated s.filter.toConfig.folded).config.emitEvents = s.filter.emitEvents :=
    FilterConfig.emitEvents_folded _
  generalize Filter.ofValidated s.filter.toConfig.folded = f at hf hp he
  refine ⟨f, hf, ?_⟩
  intro report records
  have hmem : ∀ k r, (k, r) ∈ records ↔ 1 ≤ k ∧ ∃ line, (Text.lines text)[k - 1]? = some line ∧
      Text.isBlankText line = false ∧ SessionRecord.read line = .ok r :=
    fun k r => SessionRecord.mem_numbered
  have hpairwise : records.Pairwise fun a b => a.1 < b.1 := SessionRecord.pairwise_numbered hr 1
  have hrecords : records.length = (Text.lines text).countP fun line => !Text.isBlankText line :=
    SessionRecord.length_numbered hr 1
  have hreport : report = .ofReplay f (.ofRecords f path records) := replay_eq hf hp ht hr
  clear_value report records
  subst hreport
  intro decided partials filtered allowed
  let c := Replay.ofRecords f path records
  have hfiltered : c.count .filter = filtered := Replay.count_eq c .filter
  have hallowed : c.count .allow = allowed := Replay.count_eq c .allow
  have hpending : c.count .pending = 0 := Replay.count_pending f path records
  have hlog : c.log = decided.flatMap (Replayed.entries s.filter.emitEvents path) := by
    rw [← he]
    rfl
  have hlines : c.decided.map (fun d => d.toJson.toLine) = _ :=
    Replayed.map_toLine hp fun d hd => Replayed.decision_of_mem hd
  refine ⟨hmem, hpairwise, ?_, rfl, ?_, ?_, ?_, ?_, ?_⟩
  · intro d hd calls
    obtain ⟨k, -, rfl⟩ := List.mem_map.mp hd
    exact Filter.decision_evaluate_of_no_policy hp 0 calls k.2.transcript
  · rw [ofReplay, Replay.lines_output, Replay.output, hlines, Replay.summary_eq, Replay.message_eq,
      hfiltered, hallowed, hpending]
    rfl
  · rw [← hfiltered, ← hallowed, ← Nat.add_zero (_ + _), ← hpending]
    exact Replay.length_decided c
  · rw [← hrecords]
    exact Replay.length_decided_add_partials f path records
  · rw [ofReplay, hlog]
  · rw [ofReplay, List.filter_append, hlog, Replayed.filter_entries]
    rfl

theorem replay_of_records_four_lines :
    let text := "\x7b\"text\":\"yeah\",\"agent_speaking\":true\x7d\r\n \n" ++
      "\x7b\"text\":\"wa\",\"agent_speaking\":true,\"is_final\":false\x7d\n" ++
      "\x7b\"agent_state\":\"busy\",\"text\":\"stop\\nit\",\"agent_speaking\":true\x7d"
    let w := World.ofLists [("s.jsonl", .ok text)] [("BACKCHANNEL_FILTER_IGNORE_LIST", "yeah")]
    Settings.load w {} = .ok { filter := { ignoreList := ⟨["yeah"]⟩ } } ∧
      w.contents "s.jsonl" = .ok text ∧
      SessionRecord.Readable (Text.lines text) ∧
      SessionRecord.numbered 1 (Text.lines text) =
        [(1, ⟨⟨"yeah", true, none⟩, true⟩), (3, ⟨⟨"wa", true, none⟩, false⟩),
          (4, ⟨⟨"stop\nit", true, some "busy"⟩, true⟩)] ∧
      (replay w {} "s.jsonl").exitCode = 0 ∧
      (Text.lines (replay w {} "s.jsonl").output).length = 3 ∧
      (Text.lines (replay w {} "s.jsonl").output).head? =
        some ("\x7b\"decision\":\x7b\"action\":\"filter\",\"confidence\":1.0,\"metadata\":" ++
          "\x7b\"agent_speaking\":true,\"ignore_list_only\":true," ++
          "\"rule\":\"backchanneling\",\"transcription\":\"yeah\"\x7d," ++
          "\"reason\":\"Backchanneling detected while agent speaking\"\x7d,\"line\":1," ++
          "\"transcript\":\x7b\"agent_speaking\":true,\"agent_state\":null," ++
          "\"text\":\"yeah\"\x7d\x7d") ∧
      (replay w {} "s.jsonl").log.filter LogEntry.isRecorded =
        [.recorded "s.jsonl" .filter (some "backchanneling") .one true
            "Backchanneling detected while agent speaking",
          .recorded "s.jsonl" .allow (some "command_words") .one true
            "Command words detected, allowing interruption"] := by
  intro text w
  have hs : Settings.load w {} = .ok { filter := { ignoreList := ⟨["yeah"]⟩ } } := by
    decide +kernel
  have ht : w.contents "s.jsonl" = .ok text := rfl
  have hall : ∀ line ∈ Text.lines text, Text.isBlankText line = false →
      (SessionRecord.read line).toOption.isSome = true := by decide +kernel
  have hr : SessionRecord.Readable (Text.lines text) := by
    intro line hline hb
    have hsome := hall line hline hb
    cases hread : SessionRecord.read line with
    | ok r => exact ⟨r, rfl⟩
    | error e => simp [hread, Except.toOption] at hsome
  have hn : SessionRecord.numbered 1 (Text.lines text) =
      [(1, ⟨⟨"yeah", true, none⟩, true⟩), (3, ⟨⟨"wa", true, none⟩, false⟩),
        (4, ⟨⟨"stop\nit", true, some "busy"⟩, true⟩)] := by decide +kernel
  obtain ⟨f, hf, -, -, -, hexit, hout, -, -, -, hlog⟩ := replay_of_records hs ht hr
  obtain rfl : _ = f := Except.ok.inj ((Filter.load_of_settings hs).symm.trans hf)
  rw [hn] at hout hlog
  refine ⟨hs, ht, hr, hn, hexit, ?_, ?_, ?_⟩
  · rw [hout]
    rfl
  · rw [hout]
    decide +kernel
  · rw [hlog]
    decide +kernel

end Report

end TurnTaking
