import TurnTaking.Proofs.DecisionRules
import TurnTaking.Proofs.JsonNumbers
import TurnTaking.Proofs.WrittenRecords

namespace TurnTaking

namespace Json

namespace Members

lemma insert_of_last {key : String} {ms : Members} (h : ∀ m ∈ ms, m.1 < key) (value : Json) :
    insert key value ms = ms ++ [(key, value)] := by
  induction ms with
  | nil => rfl
  | cons m ms ih =>
    obtain ⟨k, v⟩ := m
    rw [List.forall_mem_cons] at h
    have hk : k < key := h.1
    have hne : key ≠ k := by
      rintro rfl
      exact String.lt_irrefl key hk
    rw [insert, if_neg (String.lt_asymm hk), if_neg hne, ih h.2, List.cons_append]

lemma ofList_of_sorted {ms : Members} (h : (ms.map Prod.fst).Pairwise (· < ·)) :
    ofList ms = ms := by
  have hfold : ∀ acc : Members, ((acc ++ ms).map Prod.fst).Pairwise (· < ·) →
      ms.foldl (fun acc m => insert m.1 m.2 acc) acc = acc ++ ms := by
    intro acc hs
    induction ms generalizing acc with
    | nil => rw [List.foldl_nil, List.append_nil]
    | cons m ms ih =>
      have hlast : ∀ k ∈ acc, k.1 < m.1 := by
        intro k hk
        rw [List.pairwise_map, List.pairwise_append] at hs
        exact hs.2.2 k hk m (by simp)
      rw [List.append_cons] at hs ⊢
      rw [List.foldl_cons, insert_of_last hlast]
      exact ih (h.of_cons) _ hs
  exact hfold [] h

end Members

@[simp] lemma decodeText_ofText (s : String) : decodeText (.text (.ofText s)) = .ok s := by
  simp [decodeText]

@[simp] lemma decodeBoolean_boolean (b : Bool) : decodeBoolean (.boolean b) = .ok b := rfl

@[simp] lemma decodeOption_outlineOf? (s : Option String) :
    decodeOption decodeText (outlineOf? s) = .ok s := by
  cases s with
  | none => rfl
  | some s => simp [outlineOf?, decodeOption, Except.map]

lemma outlined_ofTexts (ss : List String) :
    Outlined (.ofTexts ss) (.list (ss.map fun s => .text (.ofText s)) .closed) := by
  apply outlined_list
  rw [List.forall₂_map_left_iff, List.forall₂_map_right_iff, List.forall₂_same]
  exact fun s _ => itemOutlined_text s

lemma mapM_decodeText (ss : List String) :
    (ss.map fun s => Outline.text (.ofText s)).mapM decodeText = .ok ss := by
  induction ss with
  | nil => rfl
  | cons s ss ih =>
    rw [List.map_cons, List.mapM_cons, decodeText_ofText, ih]
    rfl

def IsLeaf (j : Json) : Prop := (∃ s, j = .text s) ∨ ∃ b, j = .boolean b

lemma IsLeaf.read {j : Json} (h : j.IsLeaf) :
    ∃ o, Outlined j o ∧ ∀ depth, decodeJson depth o = .ok j := by
  rcases h with ⟨s, rfl⟩ | ⟨b, rfl⟩
  · refine ⟨_, outlined_text s, ?_⟩
    intro depth
    simp [decodeJson, Except.map]
  · refine ⟨_, outlined_boolean b, ?_⟩
    intro depth
    simp [decodeJson]

lemma read_of_leaves {members : Members} (h : ∀ m ∈ members, m.2.IsLeaf) :
    ∃ os, List.Forall₂ MemberOutlined members os ∧
      ∀ depth, decodeMembers depth os = .ok members := by
  induction members with
  | nil => exact ⟨[], .nil, fun depth => by rw [decodeMembers]⟩
  | cons m members ih =>
    obtain ⟨key, x⟩ := m
    rw [List.forall_mem_cons] at h
    obtain ⟨o, ho, hx⟩ := h.1.read
    obtain ⟨os, hos, hmembers⟩ := ih h.2
    refine ⟨_, .cons (memberOutlined ho key) hos, ?_⟩
    intro depth
    simp [decodeMembers, hx, hmembers, bind, Except.bind, pure, Except.pure]

end Json

open Json

lemma Transcript.readWith_toLine (t : Transcript) :
    readWith decode t.toJson.toLine = .ok t := by
  have ht := memberOutlined (outlined_text t.text) "text"
  have hs := memberOutlined (outlined_boolean t.agentSpeaking) "agent_speaking"
  have ha := memberOutlined (outlined_ofText? t.agentState) "agent_state"
  refine (Record.readWith_object (.cons ht (.cons hs (.cons ha .nil)))
    (s := ⟨some t.text, some t.agentSpeaking, some t.agentState⟩) ?_).trans rfl
  simp [Record.readMember, record, bind, Except.bind, pure, Except.pure]

lemma Utterance.readWith_toLine (u : Utterance) :
    readWith decode u.toJson.toLine = .ok u := by
  have ht := memberOutlined (outlined_text u.text) "text"
  have hf := memberOutlined (outlined_boolean u.isFinal) "is_final"
  refine (Record.readWith_object (.cons ht (.cons hf .nil))
    (s := ⟨some u.text, some u.isFinal⟩) ?_).trans rfl
  simp [Record.readMember, record, bind, Except.bind, pure, Except.pure]

lemma IgnoreList.readWith_toLine (l : IgnoreList) :
    readWith decode l.toJson.toLine = .ok l := by
  rw [toJson, Json.readWith_toLine _ (outlined_ofTexts l.phrases), decode, decodeList,
    mapM_decodeText]
  rfl

lemma Action.decode_name (a : Action) : decode (.text (.ofText a.name)) = .ok a := by
  cases a <;> simp [decode, decodeVariant, all, name, bind, Except.bind]

namespace Decision

lemma read_one : ∃ o, Outlined (.float .single .one) o ∧ decodeSingle o = .ok .one := by
  refine ⟨.number (.plain false ['1'] (some ['0'])), ?_, ?_⟩
  · apply outlined_plain ⟨by simp, by simp, by simp⟩ (by simp)
    simp only [write]
    decide +kernel
  · rfl

lemma read_half : ∃ o, Outlined (.float .single .half) o ∧ decodeSingle o = .ok .half := by
  refine ⟨.number (.plain false ['0'] (some ['5'])), ?_, ?_⟩
  · apply outlined_plain ⟨by simp, by simp, by simp⟩ (by simp)
    simp only [write]
    decide +kernel
  · rfl

lemma readWith_members {d : Decision} {x : Json} {c : Outline} (hx : Outlined x c)
    (hc : decodeSingle c = .ok d.confidence) (hm : ∀ m ∈ d.metadata, m.2.IsLeaf)
    (hs : (d.metadata.map Prod.fst).Pairwise (· < ·)) :
    readWith decode (Json.object [("action", .text d.action.name), ("reason", .text d.reason),
      ("confidence", x), ("metadata", .object d.metadata)]).toLine = .ok d := by
  obtain ⟨os, hos, hdm⟩ := read_of_leaves hm
  have ha := memberOutlined (outlined_text d.action.name) "action"
  have hr := memberOutlined (outlined_text d.reason) "reason"
  have hn := memberOutlined hx "confidence"
  have hm := memberOutlined (outlined_object hos) "metadata"
  refine (Record.readWith_object (.cons ha (.cons hr (.cons hn (.cons hm .nil))))
    (s := ⟨some d.action, some d.reason, some d.confidence, some d.metadata⟩) ?_).trans rfl
  simp [Record.readMember, record, Action.decode_name, hc, decodeMap, hdm,
    Members.ofList_of_sorted hs, checked, Stop.objectFault?, bind, Except.bind, pure, Except.pure]

end Decision

namespace Rule

lemma isLeaf_metadata (answer : Option Bool) (text : String) (r : Rule) :
    ∀ m ∈ (r.decision answer text).metadata, m.2.IsLeaf := by
  cases r <;> simp [decision, IsLeaf]

lemma sorted_metadata (answer : Option Bool) (text : String) (r : Rule) :
    ((r.decision answer text).metadata.map Prod.fst).Pairwise (· < ·) := by
  cases r <;> simp only [decision, List.map_cons, List.map_nil] <;> decide

lemma readWith_toLine (answer : Option Bool) (text : String) (r : Rule) :
    readWith Decision.decode (r.decision answer text).toJson.toLine =
      .ok (r.decision answer text) := by
  have hc : ∃ o, Outlined (.float .single (r.decision answer text).confidence) o ∧
      decodeSingle o = .ok (r.decision answer text).confidence := by
    rw [confidence_decision]
    split
    · exact Decision.read_half
    · exact Decision.read_one
  obtain ⟨o, ho, hd⟩ := hc
  exact Decision.readWith_members ho hd (isLeaf_metadata answer text r)
    (sorted_metadata answer text r)

end Rule

theorem readWith_toLine_self :
    (∀ t : Transcript, readWith Transcript.decode t.toJson.toLine = .ok t) ∧
    (∀ u : Utterance, readWith Utterance.decode u.toJson.toLine = .ok u) ∧
    (∀ l : IgnoreList, readWith IgnoreList.decode l.toJson.toLine = .ok l) ∧
    (∀ (f : Filter) (calls : Nat) (text : String) (speaking : Bool) (state : Option String),
      let d := (f.decide calls text speaking state).decision
      readWith Decision.decode d.toJson.toLine = .ok d) := by
  refine ⟨Transcript.readWith_toLine, Utterance.readWith_toLine, IgnoreList.readWith_toLine, ?_⟩
  intro f calls text speaking state d
  have hd : d = (f.ruling (f.answer? calls text state) text speaking).decision
      (f.answer? calls text state) text := f.judge_eq calls text speaking state
  rw [hd]
  exact Rule.readWith_toLine _ text _

end TurnTaking
