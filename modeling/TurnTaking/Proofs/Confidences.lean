import Mathlib.Algebra.Order.Group.MinMax
import TurnTaking.Proofs.DecodedValues
import TurnTaking.Proofs.EncodedValues

namespace TurnTaking

namespace Binary

def InUnit (x : Binary) : Prop := ∃ q, x.value? = some q ∧ 0 ≤ q ∧ q ≤ 1

lemma inUnit_iff (x : Binary) : (zero.le x && x.le one) = true ↔ x.InUnit :=
  between_iff value?_zero value?_one x

lemma inUnit_one : one.InUnit := ⟨1, value?_one, zero_le_one, le_rfl⟩

lemma inUnit_half : half.InUnit := ⟨1 / 2, value?_half, by norm_num, by norm_num⟩

def unitValue : Binary → ℚ
  | nan => 0
  | infinite negative => if negative then 0 else 1
  | finite negative m e => max 0 (min 1 (signed negative m * 2 ^ e))

lemma unitValue_mem (x : Binary) : 0 ≤ x.unitValue ∧ x.unitValue ≤ 1 := by
  cases x with
  | nan => simp [unitValue]
  | infinite negative => cases negative <;> simp [unitValue]
  | finite negative m e => simp [unitValue]

lemma value?_clamp {x : Binary} {q : ℚ} (h : x.value? = some q) :
    (clamp zero one x).value? = some (max 0 (min 1 q)) := by
  have hn := isNan_eq_false_of_value? h
  have hz := le_iff_of_value? value?_zero h
  have ho := le_iff_of_value? h value?_one
  by_cases h0 : 0 ≤ q
  · by_cases h1 : q ≤ 1
    · simp [clamp, hn, hz.mpr h0, ho.mpr h1, h, h0, h1]
    · have hle : x.le one = false := Bool.eq_false_iff.mpr (mt ho.mp h1)
      simp [clamp, hn, hz.mpr h0, hle, min_eq_left (le_of_not_ge h1)]
  · have hle : zero.le x = false := Bool.eq_false_iff.mpr (mt hz.mp h0)
    have hq : min 1 q ≤ 0 := (min_le_right 1 q).trans (le_of_not_ge h0)
    simp [clamp, hn, hle, max_eq_left hq]

end Binary

namespace Decision

open Json

lemma keeps_confidence :
    record.Keeps fun s => ∀ c, s.confidence = some c → ∃ o, decodeSingle o = .ok c := by
  intro f hf o s s' hs h
  simp only [record, List.mem_cons, List.not_mem_nil, or_false] at hf
  rcases hf with rfl | rfl | rfl | rfl
  all_goals
    obtain ⟨x, hx, h⟩ := bind_eq_ok_iff.mp h
    obtain rfl := Except.ok.inj h
  · exact hs
  · exact hs
  · intro c hc
    obtain rfl := Option.some.inj hc
    exact ⟨o, hx⟩
  · exact hs

lemma exists_decodeSingle {text : String} {d : Decision} (h : readWith decode text = .ok d) :
    ∃ o, decodeSingle o = .ok d.confidence := by
  obtain ⟨s, hs, hfinish⟩ :=
    keeps_confidence.exists_finish (by simp [record]) (decode_of_readWith h)
  obtain ⟨a, -, hfinish⟩ := bind_eq_ok_iff.mp hfinish
  obtain ⟨b, -, hfinish⟩ := bind_eq_ok_iff.mp hfinish
  obtain ⟨c, hc, hfinish⟩ := bind_eq_ok_iff.mp hfinish
  obtain ⟨m, -, hfinish⟩ := bind_eq_ok_iff.mp hfinish
  obtain rfl := Except.ok.inj hfinish
  exact hs c (required_eq_ok hc)

inductive Origin where
  | made (action : Action) (reason : String)
  | taken (f : Filter) (calls : Nat) (transcript : String) (speaking : Bool)
    (state : Option String)
  | read (line : String)

inductive Change where
  | confidence (x : Binary)
  | metadata (key : String) (value : Json)

namespace Change

def confidence? : Change → Option Binary
  | confidence x => some x
  | metadata _ _ => none

lemma mem_filterMap_iff {cs : List Change} {x : Binary} :
    x ∈ cs.filterMap confidence? ↔ confidence x ∈ cs := by
  rw [List.mem_filterMap]
  constructor
  · rintro ⟨c, hc, hx⟩
    cases c with
    | confidence y =>
      obtain rfl := Option.some.inj hx
      exact hc
    | metadata key value => cases hx
  · exact fun h => ⟨_, h, rfl⟩

end Change

def change (d : Decision) : Change → Decision
  | .confidence x => d.withConfidence x
  | .metadata key value => d.withMetadata key value

namespace Origin

def decision : Origin → Except Fault Decision
  | made action reason => .ok (of action reason)
  | taken f calls transcript speaking state =>
    .ok (f.decide calls transcript speaking state).decision
  | read line => readWith decode line

def changed (o : Origin) (cs : List Change) : Except Fault Decision :=
  o.decision.map (cs.foldl change)

lemma inUnit_decision {o : Origin} {d : Decision} (h : o.decision = .ok d) :
    d.confidence.InUnit ∨ ∃ line, o = read line := by
  cases o with
  | made action reason =>
    have hd : of action reason = d := Except.ok.inj h
    rw [← hd]
    exact Or.inl Binary.inUnit_one
  | taken f calls transcript speaking state =>
    have hd : (f.decide calls transcript speaking state).decision = d := Except.ok.inj h
    have hrule := f.judge_eq calls transcript speaking state
    rw [← hd]
    change (f.judge calls transcript speaking state).decision.confidence.InUnit ∨ _
    rw [hrule, Rule.confidence_decision]
    split
    · exact Or.inl Binary.inUnit_half
    · exact Or.inl Binary.inUnit_one
  | read line => exact Or.inr ⟨line, rfl⟩

lemma isNan_decision {o : Origin} {d : Decision} (h : o.decision = .ok d) :
    d.confidence.isNan = false := by
  rcases inUnit_decision h with ⟨q, hq, -⟩ | ⟨line, rfl⟩
  · exact Binary.isNan_eq_false_of_value? hq
  · obtain ⟨v, hv⟩ := exists_decodeSingle h
    exact isNan_decodeSingle hv

end Origin

lemma value?_withConfidence (d : Decision) (x : Binary) :
    (d.withConfidence x).confidence.value? = some x.unitValue := by
  cases x with
  | nan => simp [withConfidence, Binary.isNan, Binary.unitValue]
  | infinite negative =>
    cases negative <;> simp [withConfidence, Binary.isNan, Binary.clamp, Binary.le, Binary.zero,
      Binary.one, Binary.unitValue, Binary.value?, Binary.signed]
  | finite negative m e =>
    have hx : (Binary.finite negative m e).value? = some _ := rfl
    exact Binary.value?_clamp hx

lemma confidence_foldl_of_not_set {cs : List Change} (h : ∀ x, .confidence x ∉ cs) (d : Decision) :
    (cs.foldl change d).confidence = d.confidence := by
  induction cs generalizing d with
  | nil => rfl
  | cons c cs ih =>
    rw [List.foldl_cons, ih fun x hx => h x (List.mem_cons_of_mem c hx)]
    cases c with
    | confidence x => exact absurd (List.mem_cons_self ..) (h x)
    | metadata key value => rfl

lemma value?_foldl_of_last {cs : List Change} {x : Binary}
    (h : (cs.filterMap Change.confidence?).getLast? = some x) (d : Decision) :
    (cs.foldl change d).confidence.value? = some x.unitValue := by
  induction cs using List.reverseRecOn with
  | nil => cases h
  | append_singleton cs c ih =>
    rw [List.filterMap_append] at h
    rw [List.foldl_append]
    cases c with
    | confidence y =>
      have hy : y = x := by simpa [Change.confidence?] using h
      rw [← hy]
      exact value?_withConfidence _ y
    | metadata key value => exact ih (by simpa [Change.confidence?] using h)

lemma exists_read_integer {i : Int} (h : i.natAbs < 2 ^ 24) :
    ∃ line d, readWith decode line = .ok d ∧ d.confidence.value? = some (i : ℚ) := by
  have hc : decodeSingle (.number (.ofInteger i)) = .ok (Format.single.ofInt i) := by
    rw [decodeSingle, NumberToken.decode_ofInteger (by omega) (by omega)]
    rfl
  refine ⟨_, ⟨.allow, "", Format.single.ofInt i, []⟩,
    readWith_members (outlined_integer i) hc (by simp) (by simp), ?_⟩
  exact Format.value?_ofInt (by decide) (by decide) h

/-- Once a confidence is set it is the value next to the one that was set last, and until then that
of the origin. -/
theorem confidence_of_origin (cs : List Change) :
    (∀ (o : Origin) (d : Decision), o.changed cs = .ok d →
      d.confidence.isNan = false ∧
      ∃ d₀, o.decision = .ok d₀ ∧
        (∀ x, (cs.filterMap Change.confidence?).getLast? = some x →
          d.confidence.value? = some x.unitValue) ∧
        ((∀ x, .confidence x ∉ cs) → d.confidence = d₀.confidence) ∧
        (d.confidence.InUnit ↔ (∃ x, .confidence x ∈ cs) ∨ d₀.confidence.InUnit) ∧
        (d₀.confidence.InUnit ∨ ∃ line, o = .read line)) ∧
    ((∀ x, .confidence x ∉ cs) → ∀ i : Int, i.natAbs < 2 ^ 24 → ∃ line d,
      (Origin.read line).changed cs = .ok d ∧ d.confidence.value? = some (i : ℚ)) := by
  refine ⟨?_, ?_⟩
  · intro o d h
    obtain ⟨d₀, h₀, rfl⟩ := map_eq_ok_iff.mp h
    by_cases hset : ∃ x, .confidence x ∈ cs
    · obtain ⟨x, hx⟩ := hset
      have hne : cs.filterMap Change.confidence? ≠ [] :=
        List.ne_nil_of_mem (Change.mem_filterMap_iff.mpr hx)
      have hlast := List.getLast?_eq_some_getLast hne
      have hvalue := value?_foldl_of_last hlast d₀
      have hunit := Binary.unitValue_mem ((cs.filterMap Change.confidence?).getLast hne)
      refine ⟨Binary.isNan_eq_false_of_value? hvalue, d₀, h₀, ?_, ?_, ?_, Origin.inUnit_decision h₀⟩
      · exact fun y hy => value?_foldl_of_last hy d₀
      · exact fun hno => absurd hx (hno x)
      · exact ⟨fun _ => Or.inl ⟨x, hx⟩, fun _ => ⟨_, hvalue, hunit⟩⟩
    · have hno : ∀ x, .confidence x ∉ cs := fun x hx => hset ⟨x, hx⟩
      have hsame := confidence_foldl_of_not_set hno d₀
      rw [hsame]
      refine ⟨Origin.isNan_decision h₀, d₀, h₀, ?_, fun _ => rfl, ?_, Origin.inUnit_decision h₀⟩
      · intro x hx
        exact absurd (Change.mem_filterMap_iff.mp (List.mem_of_getLast? hx)) (hno x)
      · exact ⟨Or.inr, fun h => h.resolve_left hset⟩
  · intro hno i hi
    obtain ⟨line, d, hd, hvalue⟩ := exists_read_integer hi
    refine ⟨line, cs.foldl change d, map_eq_ok_iff.mpr ⟨d, hd, rfl⟩, ?_⟩
    rw [confidence_foldl_of_not_set hno d]
    exact hvalue

lemma read_nine :
    let line := "\x7b\"action\":\"allow\",\"reason\":\"\",\"confidence\":9,\"metadata\":\x7b\x7d\x7d"
    (Origin.read line).decision = .ok ⟨.allow, "", .finite false 9 0, []⟩ := by
  intro line
  have hline : line = (Json.object [("action", .text Action.allow.name), ("reason", .text ""),
      ("confidence", .integer 9), ("metadata", .object [])]).toLine := by
    decide +kernel
  rw [Origin.decision, hline]
  exact readWith_members (d := ⟨.allow, "", .finite false 9 0, []⟩) (outlined_integer 9) rfl
    (by simp) (by simp)

lemma not_inUnit_nine : ¬ (Binary.finite false 9 0).InUnit := by
  rw [← Binary.inUnit_iff]
  decide

theorem confidence_of_origin_nine :
    let o := Origin.read
      "\x7b\"action\":\"allow\",\"reason\":\"\",\"confidence\":9,\"metadata\":\x7b\x7d\x7d"
    let kept := [Change.metadata "rule" (.text "none")]
    let set := [Change.confidence (.infinite false), .confidence .nan, .metadata "rule" .null]
    (∃ d, o.changed kept = .ok d ∧ d.confidence.isNan = false ∧ ¬ d.confidence.InUnit) ∧
    (∃ d, o.changed set = .ok d ∧ d.confidence.value? = some 0) ∧
    ∃ line d, (Origin.read line).changed kept = .ok d ∧ d.confidence.value? = some (-7) := by
  intro o kept set
  have hno : ∀ x, Change.confidence x ∉ kept := by simp [kept]
  have ho : o.decision = .ok ⟨.allow, "", .finite false 9 0, []⟩ := read_nine
  have hkept : o.changed kept = .ok _ := map_eq_ok_iff.mpr ⟨_, ho, rfl⟩
  have hset : o.changed set = .ok _ := map_eq_ok_iff.mpr ⟨_, ho, rfl⟩
  obtain ⟨hnan, d₀, h₀, -, hsame, -, -⟩ := (confidence_of_origin kept).1 o _ hkept
  obtain ⟨-, -, -, hvalue, -, -, -⟩ := (confidence_of_origin set).1 o _ hset
  refine ⟨⟨_, hkept, hnan, ?_⟩, ⟨_, hset, hvalue .nan rfl⟩, ?_⟩
  · have hd : d₀ = ⟨.allow, "", .finite false 9 0, []⟩ := Except.ok.inj (h₀.symm.trans ho)
    rw [hsame hno, hd]
    exact not_inUnit_nine
  · simpa using (confidence_of_origin kept).2 hno (-7) (by decide)

theorem read_confidence_out_of_unit :
    ¬ ∀ (o : Origin) (cs : List Change) (d : Decision), o.changed cs = .ok d →
      d.confidence.InUnit := by
  intro h
  exact not_inUnit_nine (h _ [] _ (map_eq_ok_iff.mpr ⟨_, read_nine, rfl⟩))

end Decision

end TurnTaking
