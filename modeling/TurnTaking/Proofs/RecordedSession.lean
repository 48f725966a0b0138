import TurnTaking.Proofs.Accounting
import TurnTaking.Proofs.WrittenRecords

/-!
The event of a decision keeps the flag by which it was judged, so a file of the events leads to the
same decisions.
-/

namespace TurnTaking

namespace Event

/-- The line is a final record of the transcript and the flag of the event, however it is written
and whatever else it says. -/
def IsLine (e : Event) (line : String) : Prop :=
  Text.isBlankText line = false ∧ ∃ state,
    SessionRecord.read line = .ok ⟨⟨e.transcript, e.agentSpeaking, state⟩, true⟩

/-- The line is a JSON object of the transcript and the flag of the event, in one order or the
other. -/
def IsWritten (e : Event) (line : String) : Prop :=
  ∃ members : Json.Members,
    members.Perm [("text", .text e.transcript), ("agent_speaking", .boolean e.agentSpeaking)] ∧
      line = (Json.object members).toLine

def Heard (e : Event) (t : Transcript) : Prop :=
  t.text = e.transcript ∧ t.agentSpeaking = e.agentSpeaking

def IsOf (f : Filter) (session : String) (e : Event) : Prop :=
  e = .ofDecision session e.transcript e.agentSpeaking
    (f.evaluate 0 ⟨e.transcript, e.agentSpeaking, none⟩).decision

variable {es : List Event} {lines : List String}

lemma exists_heard (h : List.Forall₂ IsLine es lines) :
    ∃ ts, List.Forall₂ Heard es ts ∧
      List.Forall₂ SessionRecord.Holds (ts.map fun t => ⟨t, true⟩) lines := by
  induction h with
  | nil => exact ⟨[], .nil, .nil⟩
  | @cons e line _ _ hl _ ih =>
    obtain ⟨hb, state, hr⟩ := hl
    obtain ⟨ts, ht, hholds⟩ := ih
    exact ⟨⟨e.transcript, e.agentSpeaking, state⟩ :: ts, .cons ⟨rfl, rfl⟩ ht, .cons ⟨hb, hr⟩ hholds⟩

lemma isLine_of_read {e : Event} {line : String} (state : Option String)
    (hb : Text.isBlankText line = false)
    (hr : (SessionRecord.read line).toOption =
      some ⟨⟨e.transcript, e.agentSpeaking, state⟩, true⟩) : e.IsLine line := by
  refine ⟨hb, state, ?_⟩
  cases hread : SessionRecord.read line with
  | error fault => simp [hread, Except.toOption] at hr
  | ok r => rw [hread] at hr; exact congrArg Except.ok (Option.some.inj hr)

lemma IsWritten.isLine {e : Event} {line : String} (h : e.IsWritten line) : e.IsLine line := by
  obtain ⟨members, hm, rfl⟩ := h
  obtain ⟨hb, hr⟩ := SessionRecord.holds_utterance hm
  exact ⟨hb, none, hr⟩

lemma objects_of_isWritten (h : List.Forall₂ IsWritten es lines) :
    ∀ l ∈ lines, ∃ members : Json.Members, l = (Json.object members).toLine := by
  induction h with
  | nil => simp
  | cons hl _ ih =>
    obtain ⟨members, -, rfl⟩ := hl
    exact List.forall_mem_cons.mpr ⟨⟨members, rfl⟩, ih⟩

lemma isLine_of_isFileOf {text : String} (h : List.Forall₂ IsWritten es lines)
    (hfile : Text.IsFileOf lines text) : List.Forall₂ IsLine es (Text.lines text) := by
  rw [Text.lines_of_objects hfile (objects_of_isWritten h)]
  exact h.imp fun _ _ hl => hl.isLine

end Event

namespace Gate

variable {g : Gate}

lemma isOf_of_answers (hp : g.filter.config.policy = none) {s : GateState} {u : Utterance}
    {call : HookCall} (ha : g.Answers s u call) :
    (call.event g.session).IsOf g.filter g.session := by
  have hd : call.decision =
      (g.filter.evaluate 0 ⟨call.transcript, call.judgedSpeaking, none⟩).decision := by
    rw [ha.decision, judge, Filter.evaluate, Filter.decision_of_no_policy hp,
      Filter.decision_of_no_policy hp, ← ha.transcript, ← ha.judgedSpeaking]
  exact congrArg (Event.ofDecision g.session call.transcript call.judgedSpeaking) hd

lemma isOf_of_mem_events (hp : g.filter.config.policy = none) {c : Consumer} {speaking : Bool}
    {es : List SessionEvent} :
    ∀ e ∈ (g.run c speaking es).2.gate.events, e.IsOf g.filter g.session := by
  intro e he
  rw [events_run] at he
  obtain ⟨v, -, hv⟩ := List.mem_flatMap.mp he
  obtain ⟨call, hcall, hkept⟩ := List.mem_flatMap.mp hv
  obtain ⟨u, -, ha⟩ := g.answers_of_callOf? (Option.mem_toList.mp hcall)
  have hevent : e = call.event g.session := by
    rw [kept] at hkept
    split at hkept
    · exact List.mem_singleton.mp hkept
    · cases hkept
  rw [hevent]
  exact isOf_of_answers hp ha

end Gate

namespace Replayed

variable {f : Filter} {session : String} {es : List Event} {ts : List Transcript}

/-- What is replayed of a transcript is what the event has recorded. -/
structure Repeats (d : Replayed) (e : Event) : Prop where
  text : d.transcript.text = e.transcript
  speaking : d.transcript.agentSpeaking = e.agentSpeaking
  action : d.decision.action = e.action
  reason : d.decision.reason = e.reason
  confidence : d.decision.confidence = e.confidence
  rule : d.decision.metadata.get? "rule" = e.rule.map Json.text

lemma repeats_of_isOf (hp : f.config.policy = none) {e : Event} (he : e.IsOf f session)
    {t : Transcript} (ht : e.Heard t) (n : Nat) :
    Repeats ⟨n, t, (f.evaluate 0 t).decision⟩ e := by
  have hd : (f.evaluate 0 t).decision =
      (f.evaluate 0 ⟨e.transcript, e.agentSpeaking, none⟩).decision := by
    rw [Filter.evaluate, Filter.evaluate, Filter.decision_of_no_policy hp,
      Filter.decision_of_no_policy hp, ht.1, ht.2]
  rw [Event.IsOf, ← hd] at he
  have hr : ((f.evaluate 0 t).decision.metadata).get? "rule" =
      (f.evaluate 0 t).decision.rule?.map Json.text := by
    rw [Filter.evaluate, Filter.decision_of_no_policy hp]
    exact Rule.get?_rule_decision _ _ _
  exact ⟨ht.1, ht.2, congrArg Event.action he.symm, congrArg Event.reason he.symm,
    congrArg Event.confidence he.symm,
    hr.trans (congrArg (fun e : Event => e.rule.map Json.text) he.symm)⟩

lemma forall₂_repeats (hp : f.config.policy = none) (h : ∀ e ∈ es, e.IsOf f session)
    (ht : List.Forall₂ Event.Heard es ts) : List.Forall₂ Repeats (ofTranscripts f ts) es := by
  rw [ofTranscripts]
  generalize 1 = n
  induction ht generalizing n with
  | nil => exact .nil
  | cons hheard _ ih =>
    obtain ⟨he, hes⟩ := List.forall_mem_cons.mp h
    exact .cons (repeats_of_isOf hp he hheard n) (ih hes (n + 1))

lemma countP_of_repeats {ds : List Replayed} (h : List.Forall₂ Repeats ds es) (a : Action) :
    (ds.countP fun d => d.decision.action = a) = es.countP fun e => e.action = a := by
  induction h with
  | nil => rfl
  | cons hd _ ih => rw [List.countP_cons, List.countP_cons, ih, hd.action]

end Replayed

namespace Report

/-- A session is replayed by a file with a line for each of its events: line by line the replay
comes to the decision that the session has recorded. -/
theorem replay_of_session {w : World} {o : LoadOptions} {s : Settings}
    (hs : Settings.load w o = .ok s) (he : s.filter.emitEvents = true) :
    ∃ f, Filter.load w o = .ok f ∧ f.config.policy = none ∧
      ∀ (session : String) (c : Consumer) (speaking : Bool) (heard : List SessionEvent),
        let g : Gate := ⟨session, f, .memory⟩
        let events := (g.run c speaking heard).2.gate.events
        events = ((g.visits c (.fresh speaking) heard).filterMap g.callOf?).map
          (HookCall.event session) ∧
        (∀ lines text, List.Forall₂ Event.IsWritten events lines → Text.IsFileOf lines text →
          List.Forall₂ Event.IsLine events (Text.lines text)) ∧
        ∀ (text path : String) (w' : World) (o' : LoadOptions),
          List.Forall₂ Event.IsLine events (Text.lines text) →
          Settings.load w' o' = .ok s → w'.contents path = .ok text →
          ∃ decided : List Replayed,
            (replay w' o' path).exitCode = 0 ∧
            Text.lines (replay w' o' path).output =
              decided.map (fun d => d.printed.toLine) ++
                [Replay.summaryLine (events.countP fun e => e.action = .filter)
                  (events.countP fun e => e.action = .allow) 0] ∧
            decided.map Replayed.line = List.range' 1 events.length ∧
            List.Forall₂ Replayed.Repeats decided events := by
  obtain ⟨f, hp, hemit, hload⟩ := Filter.exists_load s
  rw [he] at hemit
  refine ⟨f, hload w o hs, hp, ?_⟩
  intro session c speaking heard g events
  have hkept : events = ((g.visits c (.fresh speaking) heard).filterMap g.callOf?).map
      (HookCall.event session) := by
    rw [show events = _ from g.events_run c speaking heard, g.flatMap_keptOf rfl, if_pos hemit]
  have hof : ∀ e ∈ events, e.IsOf f session := Gate.isOf_of_mem_events (g := g) hp
  refine ⟨hkept, fun lines text => Event.isLine_of_isFileOf, ?_⟩
  -- The run is forgotten here: each event says by itself which decision it records.
  clear_value events
  intro text path w' o' hlines hs' ht
  obtain ⟨ts, hheard, hholds⟩ := Event.exists_heard hlines
  obtain ⟨hexit, hout⟩ := replay_of_transcripts (hload w' o' hs') hp ht hholds
  have hrepeats := Replayed.forall₂_repeats hp hof hheard
  refine ⟨Replayed.ofTranscripts f ts, hexit, ?_, ?_, hrepeats⟩
  · rw [hout, Replay.linesOf, Replayed.countP_of_repeats hrepeats,
      Replayed.countP_of_repeats hrepeats,
      Replayed.map_toLine hp fun d hd => Replayed.decision_of_mem_ofTranscripts hd]
  · rw [Replayed.map_line_ofTranscripts, hheard.length_eq]

theorem replay_of_session_interrupt :
    let heard : List SessionEvent := [.speechStarted, .utterance ⟨"yeah", true⟩,
      .utterance ⟨"st", false⟩, .utterance ⟨"say \"stop\"", true⟩, .utterance ⟨"yeah", true⟩]
    let recorded : List Event := [
      ⟨"s", "yeah", true, .filter, "Backchanneling detected while agent speaking", .one,
        some "backchanneling"⟩,
      ⟨"s", "say \"stop\"", true, .allow, "Command words detected, allowing interruption", .one,
        some "command_words"⟩,
      ⟨"s", "yeah", false, .allow, "Agent not speaking, processing as user input", .one,
        some "agent_not_speaking"⟩]
    let c : Consumer := ⟨fun _ _ => {}, true⟩
    let lines := [
      "\x7b\"agent_state\": \"busy\", \"text\": \"yeah\", \"agent_speaking\": true\x7d",
      "\x7b\"text\":\"say \\\"stop\\\"\",\"agent_speaking\":true\x7d",
      "[\"\\u0079eah\", false]"]
    let w := World.ofLists [("s.jsonl", .ok (String.intercalate "\n" lines))]
      [("BACKCHANNEL_FILTER_IGNORE_LIST", "yeah")]
    ∃ f, Filter.load w {} = .ok f ∧
      let events := ((⟨"s", f, .memory⟩ : Gate).run c false heard).2.gate.events
      events = recorded ∧
        (replay w {} "s.jsonl").exitCode = 0 ∧
        (Text.lines (replay w {} "s.jsonl").output).length = 4 ∧
        ∃ (metadata : Json.Members) (state : Option String),
          (Text.lines (replay w {} "s.jsonl").output)[1]? =
          some (Json.object [("decision", .object [("action", .text "allow"),
              ("confidence", .float .double .one), ("metadata", .object metadata),
              ("reason", .text "Command words detected, allowing interruption")]),
            ("line", .integer 2), ("transcript", .object [("agent_speaking", .boolean true),
              ("agent_state", .ofText? state), ("text", .text "say \"stop\"")])]).toLine ∧
          metadata.get? "rule" = some (.text "command_words") := by
  intro heard recorded c lines w
  have hs : Settings.load w {} = .ok { filter := { ignoreList := ⟨["yeah"]⟩ } } := by
    decide +kernel
  obtain ⟨f, hf, -, hall⟩ := replay_of_session hs rfl
  obtain ⟨-, -, hreplay⟩ := hall "s" c false heard
  obtain rfl : _ = f := Except.ok.inj ((Filter.load_of_settings hs).symm.trans hf)
  refine ⟨_, hf, ?_⟩
  intro events
  have hevents : events = recorded := by decide +kernel
  have hfile : Text.lines (String.intercalate "\n" lines) = lines :=
    Text.lines_of_isFileOf (Or.inl rfl) (by decide +kernel) (by decide +kernel)
  have hlines : List.Forall₂ Event.IsLine events lines := by
    rw [hevents]
    refine .cons (Event.isLine_of_read (some "busy") (by decide +kernel) (by decide +kernel))
      (.cons (Event.isLine_of_read none (by decide +kernel) (by decide +kernel))
        (.cons (Event.isLine_of_read none (by decide +kernel) (by decide +kernel)) .nil))
  rw [← hfile] at hlines
  obtain ⟨decided, hexit, hout, hnumbers, hrepeats⟩ := hreplay _ "s.jsonl" w {} hlines hs rfl
  replace hrepeats : List.Forall₂ Replayed.Repeats decided recorded := hevents ▸ hrepeats
  replace hnumbers : decided.map Replayed.line = [1, 2, 3] :=
    hnumbers.trans (congrArg (fun es : List Event => List.range' 1 es.length) hevents)
  simp only [recorded, List.forall₂_cons_right_iff, List.forall₂_nil_right_iff] at hrepeats
  obtain ⟨first, _, -, ⟨stop, _, hstop, ⟨last, _, -, rfl, rfl⟩, rfl⟩, rfl⟩ := hrepeats
  refine ⟨hevents, hexit, ?_, stop.decision.metadata, stop.transcript.agentState, ?_, hstop.rule⟩
  · rw [hout]
    rfl
  · obtain ⟨-, hline, -⟩ : first.line = 1 ∧ stop.line = 2 ∧ last.line = 3 := by
      simpa using hnumbers
    rw [hout]
    simp only [List.map_cons, List.cons_append, List.getElem?_cons_succ, List.getElem?_cons_zero,
      Replayed.printed, hline, hstop.text, hstop.speaking, hstop.action, hstop.reason,
      hstop.confidence]
    rfl

end Report

end TurnTaking
