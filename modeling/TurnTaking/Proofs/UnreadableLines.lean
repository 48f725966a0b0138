import TurnTaking.Proofs.WrittenRecords

namespace TurnTaking

namespace SessionRecord

instance (lines : List String) : Decidable (Readable lines) :=
  decidable_of_iff (∀ line ∈ lines, Text.isBlankText line = false →
      (read line).toOption.isSome = true) <| by
    refine forall₂_congr fun line _ => imp_congr_right fun _ => ?_
    cases read line <;> simp [Except.toOption]

structure FirstUnreadable (lines : List String) (i : Nat) (line : String) : Prop where
  pos : 1 ≤ i
  at_line : lines[i - 1]? = some line
  not_blank : Text.isBlankText line = false
  not_record : ∀ r, read line ≠ .ok r
  before : Readable (lines.take (i - 1))

lemma FirstUnreadable.read_eq {lines : List String} {i : Nat} {line : String}
    (h : FirstUnreadable lines i line) : ∃ fault, read line = .error fault := by
  cases hr : read line with
  | error fault => exact ⟨fault, rfl⟩
  | ok r => exact absurd hr (h.not_record r)

lemma FirstUnreadable.split {lines : List String} {i : Nat} {line : String}
    (h : FirstUnreadable lines i line) :
    (lines.take (i - 1)).length + 1 = i ∧ ∃ rest, lines = lines.take (i - 1) ++ line :: rest := by
  obtain ⟨hlt, hget⟩ := List.getElem?_eq_some_iff.mp h.at_line
  refine ⟨?_, lines.drop (i - 1 + 1), ?_⟩
  · have hpos := h.pos
    rw [List.length_take]
    omega
  · rw [← hget, ← List.drop_eq_getElem_cons hlt, List.take_append_drop]

lemma FirstUnreadable.mem_before {lines : List String} {i k : Nat} {line : String}
    {r : SessionRecord} (h : FirstUnreadable lines i line) :
    (k, r) ∈ numbered 1 (lines.take (i - 1)) ↔ 1 ≤ k ∧ k < i ∧ ∃ l, lines[k - 1]? = some l ∧
      Text.isBlankText l = false ∧ read l = .ok r := by
  have hpos := h.pos
  rw [mem_numbered, List.getElem?_take]
  constructor
  · rintro ⟨hk, l, hl, hrecord⟩
    split at hl
    · exact ⟨hk, by omega, l, hl, hrecord⟩
    · cases hl
  · rintro ⟨hk, hi, l, hl, hrecord⟩
    rw [if_pos (by omega)]
    exact ⟨hk, l, hl, hrecord⟩

lemma readable_or_firstUnreadable (lines : List String) :
    Readable lines ∨ ∃ i line, FirstUnreadable lines i line := by
  induction lines with
  | nil => exact Or.inl (by simp [Readable])
  | cons l lines ih =>
    by_cases hl : Text.isBlankText l = false → ∃ r, read l = .ok r
    · rcases ih with hr | ⟨i, line, h⟩
      · left
        intro l' hl' hb
        rcases List.mem_cons.mp hl' with rfl | hl'
        · exact hl hb
        · exact hr l' hl' hb
      · right
        have hpos := h.pos
        obtain ⟨j, rfl⟩ : ∃ j, i = j + 1 := ⟨i - 1, by omega⟩
        refine ⟨j + 2, line, by omega, h.at_line, h.not_blank, h.not_record, ?_⟩
        intro l' hl' hb
        rcases List.mem_cons.mp hl' with rfl | hl'
        · exact hl hb
        · exact h.before l' hl' hb
    · right
      simp only [not_forall, not_exists] at hl
      obtain ⟨hb, hr⟩ := hl
      exact ⟨1, l, by omega, rfl, hb, hr, by simp [Readable]⟩

/-- Outlines of one record, which may say in the two that it is final or that it is not. -/
inductive DifferInFinal : Json.Outline → Json.Outline → Prop
  | object (before after : List (Option Json.TextToken × Json.Outline)) (stop : Json.Stop)
      {key : Json.TextToken} (h : key.decode = .ok "is_final") (b b' : Bool) :
    DifferInFinal (.object (before ++ (some key, .boolean b) :: after) stop)
      (.object (before ++ (some key, .boolean b') :: after) stop)
  | list (text speaking state : Json.Outline) (rest : List Json.Outline) (stop : Json.Stop)
      (b b' : Bool) :
    DifferInFinal (.list (text :: speaking :: state :: .boolean b :: rest) stop)
      (.list (text :: speaking :: state :: .boolean b' :: rest) stop)

namespace Draft

def asFinal (s : Draft) : Draft := { s with isFinal := s.isFinal.map fun _ => true }

end Draft

lemma fill_asFinal : ∀ f ∈ record.fields, ∀ (o : Json.Outline) (s : Draft),
    f.isFilled s.asFinal = f.isFilled s ∧
      (f.fill o s.asFinal).map Draft.asFinal = (f.fill o s).map Draft.asFinal := by
  simp only [record, List.forall_mem_cons]
  refine ⟨?_, ?_, ?_, ?_, by simp⟩
  · rintro o ⟨text, speaking, state, isFinal⟩
    cases Json.decodeText o <;> cases isFinal <;> exact ⟨rfl, rfl⟩
  · rintro o ⟨text, speaking, state, isFinal⟩
    cases Json.decodeBoolean o <;> cases isFinal <;> exact ⟨rfl, rfl⟩
  · rintro o ⟨text, speaking, state, isFinal⟩
    cases Json.decodeOption Json.decodeText o <;> cases isFinal <;> exact ⟨rfl, rfl⟩
  · rintro o ⟨text, speaking, state, isFinal⟩
    cases Json.decodeBoolean o <;> cases isFinal <;> exact ⟨rfl, rfl⟩

lemma readMember_asFinal (s : Draft) (m : Option Json.TextToken × Json.Outline) :
    (record.readMember s.asFinal m).map Draft.asFinal =
      (record.readMember s m).map Draft.asFinal := by
  obtain ⟨key, value⟩ := m
  cases key with
  | none => rfl
  | some key =>
    cases hk : key.decode with
    | error fault => simp [Json.Record.readMember, hk, bind, Except.bind]
    | ok k =>
      cases hf : record.fields.find? fun f => f.name == k with
      | none =>
        simp only [Json.Record.readMember, hk, hf, bind, Except.bind]
        cases Json.skip value <;> simp [Except.map, pure, Except.pure, Draft.asFinal]
      | some f =>
        obtain ⟨hfilled, hfill⟩ := fill_asFinal f (List.mem_of_find?_eq_some hf) value s
        simp only [Json.Record.readMember, hk, hf, bind, Except.bind, hfilled]
        split
        · rfl
        · exact hfill

lemma bind_asFinal {β γ : Type} {x y : Except Json.Fault Draft} {k : Draft → Except Json.Fault β}
    {g : β → γ} (hk : ∀ s, (k s.asFinal).map g = (k s).map g)
    (h : x.map Draft.asFinal = y.map Draft.asFinal) :
    (x.bind k).map g = (y.bind k).map g := by
  cases x with
  | error fault =>
    cases y with
    | error fault' =>
      obtain rfl := Except.error.inj h
      rfl
    | ok t => cases h
  | ok s =>
    cases y with
    | error fault' => cases h
    | ok t =>
      have ht : s.asFinal = t.asFinal := Except.ok.inj h
      show (k s).map g = (k t).map g
      rw [← hk s, ht, hk t]

lemma foldlM_asFinal (ms : List (Option Json.TextToken × Json.Outline)) (s : Draft) :
    (ms.foldlM record.readMember s.asFinal).map Draft.asFinal =
      (ms.foldlM record.readMember s).map Draft.asFinal := by
  induction ms generalizing s with
  | nil => simp [Draft.asFinal, pure, Except.pure, Except.map]
  | cons m ms ih =>
    rw [List.foldlM_cons, List.foldlM_cons]
    exact bind_asFinal ih (readMember_asFinal s m)

lemma finish_asFinal (s : Draft) :
    (record.finish s.asFinal).map SessionRecord.transcript =
      (record.finish s).map SessionRecord.transcript := by
  obtain ⟨text, speaking, state, isFinal⟩ := s
  cases text <;> cases speaking <;> rfl

lemma readMember_isFinal {key : Json.TextToken} (h : key.decode = .ok "is_final") (s : Draft)
    (b b' : Bool) :
    (record.readMember s (some key, .boolean b)).map Draft.asFinal =
      (record.readMember s (some key, .boolean b')).map Draft.asFinal := by
  simp only [Json.Record.readMember, h, bind, Except.bind]
  obtain ⟨text, speaking, state, isFinal⟩ := s
  cases isFinal <;> rfl

lemma DifferInFinal.transcript_eq {o o' : Json.Outline} (h : DifferInFinal o o') :
    (decode o).map SessionRecord.transcript = (decode o').map SessionRecord.transcript := by
  cases h with
  | object before after stop hkey b b' =>
    simp only [decode, Json.Record.decode, List.foldlM_append, List.foldlM_cons]
    cases hs : before.foldlM record.readMember record.start with
    | error fault => rfl
    | ok s =>
      apply bind_asFinal
      · intro t
        cases Json.checked stop.objectFault? () with
        | error fault => rfl
        | ok u => exact finish_asFinal t
      · exact bind_asFinal (foldlM_asFinal after) (readMember_isFinal hkey s b b')
  | list text speaking state rest stop b b' =>
    simp only [decode, Json.Record.decode, Json.Record.readItems, record]
    cases Json.decodeText text with
    | error fault => rfl
    | ok text =>
      cases Json.decodeBoolean speaking with
      | error fault => rfl
      | ok speaking =>
        cases Json.decodeOption Json.decodeText state with
        | error fault => rfl
        | ok state =>
          cases rest with
          | cons o os => rfl
          | nil => cases stop <;> rfl

lemma DifferInFinal.exists_fault {line line' : String} {o o' : Json.Outline}
    {after : Option (List Char)} {fault : Json.Fault} (h : DifferInFinal o o')
    (ho : Json.Outline.ofText line = (o, after))
    (ho' : Json.Outline.ofText line' = (o', after)) (hr : read line = .error fault) :
    ∃ fault', read line' = .error fault' := by
  refine ⟨fault, ?_⟩
  have ht := h.transcript_eq
  rw [read, Json.readWith, ho] at hr
  rw [read, Json.readWith, ho']
  cases hd : decode o with
  | error e =>
    cases hd' : decode o' with
    | error e' =>
      rw [hd, hd'] at ht
      obtain rfl : e = e' := Except.error.inj ht
      simpa [hd, hd', bind, Except.bind] using hr
    | ok r' => rw [hd, hd'] at ht; cases ht
  | ok r =>
    cases hd' : decode o' with
    | error e' => rw [hd, hd'] at ht; cases ht
    | ok r' =>
      cases after with
      | none => simp [hd, bind, Except.bind] at hr
      | some rest =>
        cases hb : (Json.skipSpace rest).isEmpty with
        | true => simp [hd, hb, bind, Except.bind] at hr
        | false => simpa [hd, hd', hb, bind, Except.bind] using hr

end SessionRecord

namespace Replay

lemma ofLines_unreadable {f : Filter} {session line : String} {front rest : List String}
    {fault : Json.Fault} (hp : f.config.policy = none) (h : SessionRecord.Readable front)
    (hb : Text.isBlankText line = false) (hr : SessionRecord.read line = .error fault) (n : Nat) :
    ofLines f session n (front ++ line :: rest) =
      { ofRecords f session (SessionRecord.numbered n front) with
        failure := some ⟨n + front.length, line, fault⟩ } := by
  refine SessionRecord.Readable.induct ?_ ?_ ?_ h n
  · intro n
    simp [ofLines, hb, hr, ofRecords, SessionRecord.numbered]
  · intro n l front hl ih
    rw [List.cons_append, ofLines_cons_blank hl, SessionRecord.numbered_cons_blank hl, ih,
      List.length_cons, Nat.add_right_comm, Nat.add_assoc]
  · intro n l front r hl hread ih
    have hn : n + 1 + front.length = n + (l :: front).length := by
      rw [List.length_cons]
      omega
    rw [hn] at ih
    rw [List.cons_append, SessionRecord.numbered_cons_record hl hread]
    cases hf : r.isFinal with
    | false =>
      rw [ofLines_cons_partial hl hread hf, ih]
      simp [ofRecords, hf]
    | true =>
      rw [ofLines_cons_final hp hl hread hf, ih]
      simp [ofRecords, hf]

end Replay

lemma RunError.exitCode_ofConfig (e : ConfigError) : (ofConfig e).exitCode = 2 := by
  cases e <;> rfl

namespace Report

def ofUnreadable (w : World) (f : Filter) (c : Replay) (b : BadLine) : Report :=
  failure "replay" (.input (b.message w)) (f.readyLog ++ c.log)

variable {w : World} {o : LoadOptions} {f : Filter} {path text line : String} {i : Nat}
  {fault : Json.Fault}

lemma replay_of_error {e : ConfigError} (hs : Settings.load w o = .error e) (path : String) :
    replay w o path = failure "replay" (.ofConfig e) [] := by
  rw [replay, Filter.load_of_error hs]

lemma replay_eq_unreadable (hf : Filter.load w o = .ok f) (hp : f.config.policy = none)
    (ht : w.contents path = .ok text)
    (hu : SessionRecord.FirstUnreadable (Text.lines text) i line)
    (hr : SessionRecord.read line = .error fault) :
    replay w o path =
      .ofUnreadable w f (.ofRecords f path
        (SessionRecord.numbered 1 ((Text.lines text).take (i - 1)))) ⟨i, line, fault⟩ := by
  obtain ⟨hlength, rest, hsplit⟩ := hu.split
  have hlines : Replay.ofLines f path 1 ((Text.lines text).take (i - 1) ++ line :: rest) = _ :=
    Replay.ofLines_unreadable hp hu.before hu.not_blank hr 1
  rw [← hsplit, Nat.add_comm 1, hlength] at hlines
  simp only [replay, hf, ht, hlines]
  rfl

lemma replay_cases {s : Settings} (hs : Settings.load w o = .ok s) (path : String) :
    (∃ fault, w.contents path = .error fault ∧ (replay w o path).exitCode = 3) ∨
    (∃ text, w.contents path = .ok text ∧ SessionRecord.Readable (Text.lines text) ∧
      (replay w o path).exitCode = 0) ∨
    ∃ text i line, w.contents path = .ok text ∧
      SessionRecord.FirstUnreadable (Text.lines text) i line ∧ (replay w o path).exitCode = 3 := by
  obtain ⟨f, hp, -, hload⟩ := Filter.exists_load s
  have hf := hload w o hs
  cases ht : w.contents path with
  | error fault =>
    left
    refine ⟨fault, rfl, ?_⟩
    rw [replay, hf, ht]
    rfl
  | ok text =>
    right
    rcases SessionRecord.readable_or_firstUnreadable (Text.lines text) with hr | ⟨i, line, hu⟩
    · left
      refine ⟨text, rfl, hr, ?_⟩
      rw [replay_eq hf hp ht hr]
      rfl
    · right
      obtain ⟨fault, hfault⟩ := hu.read_eq
      refine ⟨text, i, line, rfl, hu, ?_⟩
      rw [replay_eq_unreadable hf hp ht hu hfault]
      rfl

lemma toLine_ne_errorPayload (d : Replayed) (command : String) (e : RunError) :
    d.toJson.toLine ≠ (errorPayload command e).toLine := by
  intro h
  have hl := congrArg (fun s => s.toList[2]?) h
  rw [Replayed.toJson_eq, errorPayload] at hl
  simp only [Json.toLine, String.toList_ofList, Json.write, Json.writeMembers, Json.writeText] at hl
  cases hl

lemma lines_errorPayload (command : String) (e : RunError) :
    Text.lines (errorPayload command e).toLine = [(errorPayload command e).toLine] := by
  have hfile : Text.IsFileOf [(errorPayload command e).toLine] (errorPayload command e).toLine :=
    Or.inl (String.intercalate_singleton).symm
  apply Text.lines_of_objects hfile
  intro line hline
  rw [errorPayload] at hline
  exact ⟨_, List.mem_singleton.mp hline⟩

/-- A replay that meets a line that is no record prints one error, which tells of that line and its
number and of nothing else. Its log holds what was decided on the lines before. -/
theorem replay_of_unreadable_line {s : Settings} (hs : Settings.load w o = .ok s)
    (ht : w.contents path = .ok text)
    (hu : SessionRecord.FirstUnreadable (Text.lines text) i line) :
    ∃ f fault, Filter.load w o = .ok f ∧ SessionRecord.read line = .error fault ∧
      let report := replay w o path
      let records := SessionRecord.numbered 1 ((Text.lines text).take (i - 1))
      let decided := (records.filter fun k => k.2.isFinal).map (Replayed.ofRecord f)
      (∀ k r, (k, r) ∈ records ↔ 1 ≤ k ∧ k < i ∧ ∃ l, (Text.lines text)[k - 1]? = some l ∧
        Text.isBlankText l = false ∧ SessionRecord.read l = .ok r) ∧
      report.exitCode = 3 ∧
      report.output =
        (Json.object [("command", .text "replay"), ("status", .text "error"),
          ("error_class", .text "input"),
          ("message", .text ("invalid input: line " ++ toString i ++
            ": not a transcript record: " ++ fault.message ++ w.place line)),
          ("hint", .text "The input could not be read. Check the file and try again.")]).toLine ∧
      Text.lines report.output = [report.output] ∧
      (∀ d : Replayed, d.toJson.toLine ∉ Text.lines report.output) ∧
      report.log = f.readyLog ++ decided.flatMap (Replayed.entries s.filter.emitEvents path) ∧
      report.log.filter LogEntry.isRecorded =
        (if s.filter.emitEvents then decided.map (Replayed.recorded path) else []) ∧
      (∀ (w' : World) (o' : LoadOptions) s' path' text', Settings.load w' o' = .ok s' →
        w'.contents path' = .ok text' → w'.place line = w.place line →
        SessionRecord.FirstUnreadable (Text.lines text') i line →
        (replay w' o' path').output = report.output) ∧
      (∀ line' shape shape' after, Json.Outline.ofText line = (shape, after) →
        Json.Outline.ofText line' = (shape', after) →
        SessionRecord.DifferInFinal shape shape' →
          ∃ fault', SessionRecord.read line' = .error fault') ∧
      (∀ (w' : World) (o' : LoadOptions) e path', Settings.load w' o' = .error e →
        replay w' o' path' = failure "replay" (.ofConfig e) [] ∧
          (replay w' o' path').exitCode = 2) := by
  obtain ⟨f, hp, he, hload⟩ := Filter.exists_load s
  have hf := hload w o hs
  obtain ⟨fault, hr⟩ := hu.read_eq
  refine ⟨f, fault, hf, hr, ?_⟩
  intro report records decided
  have hreport : report = .ofUnreadable w f (.ofRecords f path records) ⟨i, line, fault⟩ :=
    replay_eq_unreadable hf hp ht hu hr
  have hlog : report.log =
      f.readyLog ++ decided.flatMap (Replayed.entries s.filter.emitEvents path) := by
    rw [hreport, ← he]
    rfl
  have hlines : Text.lines report.output = [report.output] := by
    rw [hreport]
    exact lines_errorPayload _ _
  refine ⟨?_, ?_, ?_, hlines, ?_, hlog, ?_, ?_, ?_, ?_⟩
  · exact fun k r => hu.mem_before
  · rw [hreport]
    rfl
  · rw [hreport]
    rfl
  · intro d hd
    rw [hlines, List.mem_singleton, hreport] at hd
    exact toLine_ne_errorPayload d _ _ hd
  · rw [hlog, List.filter_append, Replayed.filter_entries]
    rfl
  · intro w' o' s' path' text' hs' ht' hplace hu'
    obtain ⟨f', hp', -, hload'⟩ := Filter.exists_load s'
    rw [replay_eq_unreadable (hload' w' o' hs') hp' ht' hu' hr, hreport, ofUnreadable,
      ofUnreadable, BadLine.message, BadLine.message, hplace]
    rfl
  · intro line' shape shape' after hshape hshape' hd
    exact hd.exists_fault hshape hshape' hr
  · intro w' o' e path' hs'
    rw [replay_of_error hs' path']
    exact ⟨rfl, RunError.exitCode_ofConfig e⟩

theorem replay_of_unreadable_fourth_line :
    let text := "\x7b\"text\":\"yeah\",\"agent_speaking\":true\x7d\n\n" ++
      "\x7b\"text\":\"wa\",\"agent_speaking\":true,\"is_final\":false\x7d\n" ++
      "\x7b\"agent_speaking\":true,\"is_final\":false\x7d\n" ++
      "\x7b\"text\":\"stop\",\"agent_speaking\":true\x7d\n"
    let line := "\x7b\"agent_speaking\":true,\"is_final\":false\x7d"
    let w :=
      { World.ofLists [("s.jsonl", .ok text)] [("BACKCHANNEL_FILTER_IGNORE_LIST", "yeah")] with
        place := fun _ => " at line 1 column 40" }
    Settings.load w {} = .ok { filter := { ignoreList := ⟨["yeah"]⟩ } } ∧
      w.contents "s.jsonl" = .ok text ∧
      SessionRecord.FirstUnreadable (Text.lines text) 4 line ∧
      (replay w {} "s.jsonl").exitCode = 3 ∧
      (replay w {} "s.jsonl").output =
        (Json.object [("command", .text "replay"), ("status", .text "error"),
          ("error_class", .text "input"),
          ("message", .text ("invalid input: line 4: not a transcript record: " ++
            "missing field \x60text\x60 at line 1 column 40")),
          ("hint", .text "The input could not be read. Check the file and try again.")]).toLine ∧
      (replay w {} "s.jsonl").log.filter LogEntry.isRecorded =
        [.recorded "s.jsonl" .filter (some "backchanneling") .one true
          "Backchanneling detected while agent speaking"] := by
  intro text line w
  have hs : Settings.load w {} = .ok { filter := { ignoreList := ⟨["yeah"]⟩ } } := by
    decide +kernel
  have ht : w.contents "s.jsonl" = .ok text := rfl
  have hlines : Text.lines text = ["\x7b\"text\":\"yeah\",\"agent_speaking\":true\x7d", "",
      "\x7b\"text\":\"wa\",\"agent_speaking\":true,\"is_final\":false\x7d", line,
      "\x7b\"text\":\"stop\",\"agent_speaking\":true\x7d"] := by decide +kernel
  have hm : (SessionRecord.read line).mapError Json.Fault.message =
      .error "missing field \x60text\x60" := by decide +kernel
  have hu : SessionRecord.FirstUnreadable (Text.lines text) 4 line := by
    rw [hlines]
    refine ⟨by omega, rfl, by decide +kernel, ?_, by decide +kernel⟩
    intro r hr
    rw [hr] at hm
    cases hm
  have hn : SessionRecord.numbered 1 ((Text.lines text).take 3) =
      [(1, ⟨⟨"yeah", true, none⟩, true⟩), (3, ⟨⟨"wa", true, none⟩, false⟩)] := by
    rw [hlines]
    decide +kernel
  obtain ⟨f, fault, hf, hr, -, hexit, hout, -, -, -, hlog, -⟩ := replay_of_unreadable_line hs ht hu
  obtain rfl : _ = f := Except.ok.inj ((Filter.load_of_settings hs).symm.trans hf)
  rw [hr] at hm
  have hfault : fault.message = "missing field \x60text\x60" := Except.error.inj hm
  rw [hfault] at hout
  rw [hn] at hlog
  refine ⟨hs, ht, hu, hexit, hout, ?_⟩
  rw [hlog]
  decide +kernel

end Report

end TurnTaking
