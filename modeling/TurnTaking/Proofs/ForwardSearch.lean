import TurnTaking.Proofs.Segmentation

/-!
The search for a segmentation from the front: a start that is not marked itself is passed over, and
from a marked one no phrase reaches further than the longest.
-/

namespace TurnTaking

namespace Vocabulary

def markStop (v : Vocabulary) (ts : List Token) (start : Nat) (marks : List Bool) (stop : Nat) :
    List Bool :=
  if !marks.getD stop false && v.phrases.contains ((ts.take stop).drop start) then
    marks.set stop true
  else marks

def markFrom (v : Vocabulary) (ts : List Token) (marks : List Bool) (start : Nat) : List Bool :=
  if marks.getD start false then
    (List.range' (start + 1) (min ts.length (start + v.longest) - start)).foldl
      (v.markStop ts start) marks
  else marks

def sweep (v : Vocabulary) (ts : List Token) : List Bool :=
  (List.range ts.length).foldl (v.markFrom ts) (true :: List.replicate ts.length false)

def coversForward (v : Vocabulary) (ts : List Token) : Bool :=
  !(ts.isEmpty || v.phrases.isEmpty) && (v.sweep ts).getD ts.length false

variable {v : Vocabulary} {ts : List Token}

lemma Segmented.append {us : List Token} (h : v.Segmented ts) (hu : v.Segmented us) :
    v.Segmented (ts ++ us) := by
  induction h with
  | nil => exact hu
  | @phrase p rest hp _ ih =>
    rw [List.append_assoc]
    exact .phrase hp ih

lemma Segmented.last {us : List Token} (h : v.Segmented us) (hne : us ≠ []) :
    ∃ front p, us = front ++ p ∧ p ≠ [] ∧ p ∈ v.phrases ∧ v.Segmented front := by
  induction h with
  | nil => exact absurd rfl hne
  | @phrase p rest hp hr ih =>
    by_cases hrest : rest = []
    · rw [hrest, List.append_nil] at hne ⊢
      exact ⟨[], p, rfl, hne, hp, .nil⟩
    · obtain ⟨front, q, rfl, hq, hmem, hfront⟩ := ih hrest
      exact ⟨p ++ front, q, (List.append_assoc p front q).symm, hq, hmem, .phrase hp hfront⟩

def IsStop (v : Vocabulary) (ts : List Token) (bound stop : Nat) : Prop :=
  ∃ start < bound, start < stop ∧ v.Segmented (ts.take start) ∧
    (ts.take stop).drop start ∈ v.phrases

lemma segmented_take_iff {n : Nat} (hn : n ≤ ts.length) :
    v.Segmented (ts.take n) ↔ n = 0 ∨ v.IsStop ts n n := by
  constructor
  · intro h
    by_cases h0 : n = 0
    · exact Or.inl h0
    · have hlength : (ts.take n).length = n := List.length_take_of_le hn
      have hne : ts.take n ≠ [] := by
        intro he
        rw [he] at hlength
        exact h0 hlength.symm
      obtain ⟨front, p, he, hp, hmem, hfront⟩ := h.last hne
      have hpos := List.length_pos_iff.mpr hp
      rw [he, List.length_append] at hlength
      have hlt : front.length < n := by omega
      have htake : ts.take front.length = front := by
        have hmin : min front.length n = front.length := Nat.min_eq_left (Nat.le_of_lt hlt)
        rw [← hmin, ← List.take_take, he, List.take_left]
      have hdrop : (ts.take n).drop front.length = p := by
        rw [he, List.drop_left]
      exact Or.inr ⟨front.length, hlt, hlt, htake.symm ▸ hfront, hdrop.symm ▸ hmem⟩
  · rintro (rfl | ⟨start, -, hlt, hs, hp⟩)
    · exact .nil
    · have htake : ts.take n = ts.take start ++ (ts.take n).drop start := by
        have hmin : min start n = start := Nat.min_eq_left (Nat.le_of_lt hlt)
        conv_lhs => rw [← List.take_append_drop start (ts.take n), List.take_take, hmin]
      rw [htake]
      exact hs.append (by simpa using Segmented.phrase hp .nil)

lemma length_markStop (start : Nat) (marks : List Bool) (stop : Nat) :
    (v.markStop ts start marks stop).length = marks.length := by
  rw [markStop]
  split <;> simp

lemma getD_markStop {start stop : Nat} {marks : List Bool} (h : stop < marks.length) (n : Nat) :
    (v.markStop ts start marks stop).getD n false = true ↔
      marks.getD n false = true ∨ n = stop ∧ (ts.take n).drop start ∈ v.phrases := by
  rw [markStop]
  split
  · rename_i hc
    simp only [Bool.and_eq_true, List.contains_iff_mem] at hc
    by_cases hn : n = stop
    · subst hn
      simp [h, hc.2]
    · simp [hn, Ne.symm hn]
  · rename_i hc
    simp only [Bool.and_eq_true, List.contains_iff_mem, Bool.not_eq_true', not_and] at hc
    by_cases hm : marks.getD n false = true
    · simp only [hm, true_or]
    · refine ⟨Or.inl, ?_⟩
      rintro (hm' | ⟨rfl, hp⟩)
      · exact hm'
      · exact absurd hp (hc (Bool.eq_false_iff.mpr hm))

lemma foldl_markStop (v : Vocabulary) (ts : List Token) (start : Nat) {stops : List Nat}
    {marks : List Bool} (h : ∀ stop ∈ stops, stop < marks.length) :
    (stops.foldl (v.markStop ts start) marks).length = marks.length ∧
      ∀ n, (stops.foldl (v.markStop ts start) marks).getD n false = true ↔
        marks.getD n false = true ∨ n ∈ stops ∧ (ts.take n).drop start ∈ v.phrases := by
  induction stops generalizing marks with
  | nil => simp
  | cons stop stops ih =>
    rw [List.forall_mem_cons] at h
    have hstops : ∀ s ∈ stops, s < (v.markStop ts start marks stop).length := by
      simpa only [length_markStop] using h.2
    obtain ⟨hlength, hmarks⟩ := ih hstops
    rw [List.foldl_cons]
    refine ⟨hlength.trans (length_markStop start marks stop), ?_⟩
    intro n
    rw [hmarks, getD_markStop h.1, List.mem_cons]
    tauto

/-- What the table holds when the starts below `bound` have been looked at. -/
structure IsSwept (v : Vocabulary) (ts : List Token) (bound : Nat) (marks : List Bool) : Prop where
  length : marks.length = ts.length + 1
  marked : ∀ n ≤ ts.length, marks.getD n false = true ↔ n = 0 ∨ v.IsStop ts bound n

lemma isStop_succ_iff (bound n : Nat) :
    v.IsStop ts (bound + 1) n ↔ v.IsStop ts bound n ∨
      bound < n ∧ v.Segmented (ts.take bound) ∧ (ts.take n).drop bound ∈ v.phrases := by
  constructor
  · rintro ⟨start, hb, h⟩
    rcases Nat.lt_succ_iff_lt_or_eq.mp hb with hlt | rfl
    · exact Or.inl ⟨start, hlt, h⟩
    · exact Or.inr h
  · rintro (⟨start, hb, h⟩ | h)
    · exact ⟨start, Nat.lt_succ_of_lt hb, h⟩
    · exact ⟨bound, Nat.lt_succ_self bound, h⟩

lemma isSwept_markFrom {bound : Nat} {marks : List Bool} (h : v.IsSwept ts bound marks)
    (hb : bound < ts.length) : v.IsSwept ts (bound + 1) (v.markFrom ts marks bound) := by
  have hstart : marks.getD bound false = true ↔ v.Segmented (ts.take bound) := by
    have hle := Nat.le_of_lt hb
    rw [h.marked bound hle, segmented_take_iff hle]
  rw [markFrom]
  split
  · rename_i hm
    have hsegmented := hstart.mp hm
    have hstops : ∀ stop ∈ List.range' (bound + 1) (min ts.length (bound + v.longest) - bound),
        stop < marks.length := by
      intro stop hstop
      rw [List.mem_range'_1] at hstop
      rw [h.length]
      omega
    obtain ⟨hlength, hmarks⟩ := foldl_markStop v ts bound hstops
    refine ⟨hlength.trans h.length, ?_⟩
    intro n hn
    rw [hmarks, h.marked n hn, isStop_succ_iff, List.mem_range'_1, or_assoc]
    refine or_congr_right (or_congr_right ⟨?_, ?_⟩)
    · rintro ⟨hr, hp⟩
      exact ⟨by omega, hsegmented, hp⟩
    · rintro ⟨hlt, -, hp⟩
      have hl := le_longest hp
      rw [List.length_drop, List.length_take_of_le hn] at hl
      exact ⟨by omega, hp⟩
  · rename_i hm
    refine ⟨h.length, ?_⟩
    intro n hn
    rw [h.marked n hn, isStop_succ_iff]
    have hno : ¬ v.Segmented (ts.take bound) := fun hs => hm (hstart.mpr hs)
    simp [hno]

lemma isSwept_foldl {bound : Nat} (hb : bound ≤ ts.length) :
    v.IsSwept ts bound ((List.range bound).foldl (v.markFrom ts)
      (true :: List.replicate ts.length false)) := by
  induction bound with
  | zero =>
    refine ⟨by simp, ?_⟩
    intro n hn
    cases n with
    | zero => simp
    | succ n =>
      have hlt : n < ts.length := hn
      simp [IsStop, hlt]
  | succ bound ih =>
    rw [List.range_succ, List.foldl_append]
    exact isSwept_markFrom (ih (Nat.le_of_succ_le hb)) hb

lemma getD_sweep (v : Vocabulary) (ts : List Token) :
    (v.sweep ts).getD ts.length false = true ↔ v.Segmented ts := by
  rw [sweep, (isSwept_foldl (Nat.le_refl _)).marked _ (Nat.le_refl _),
    ← segmented_take_iff (Nat.le_refl _), List.take_length]

lemma phrases_ne_nil_of_segmented (h : v.Segmented ts) (hne : ts ≠ []) : v.phrases ≠ [] := by
  obtain ⟨-, p, -, -, hp, -⟩ := h.last hne
  exact List.ne_nil_of_mem hp

lemma coversForward_eq (v : Vocabulary) (ts : List Token) : v.coversForward ts = v.covers ts := by
  rw [Bool.eq_iff_iff, covers_iff, coversForward, Bool.and_eq_true, getD_sweep, Bool.not_eq_true',
    Bool.or_eq_false_iff, List.isEmpty_eq_false_iff, List.isEmpty_eq_false_iff]
  constructor
  · rintro ⟨⟨hne, -⟩, h⟩
    exact ⟨hne, h⟩
  · rintro ⟨hne, h⟩
    exact ⟨⟨hne, phrases_ne_nil_of_segmented h hne⟩, h⟩

theorem covers_compile_iff (l : IgnoreList) (caseSensitive : Bool) (ts : List Token) :
    let v := compile l caseSensitive
    (v.covers ts = true ↔
      ts ≠ [] ∧ ∃ ps : List (List Token),
        (∀ p ∈ ps, p ≠ [] ∧ ∃ entry ∈ l.phrases, tokenize caseSensitive entry = p) ∧
          ps.flatten = ts) ∧
    v.coversForward ts = v.covers ts := by
  intro v
  refine ⟨?_, coversForward_eq v ts⟩
  simp only [v, covers_iff, segmented_iff, mem_compile]

-- The longest phrase that fits is not always the one to take.
example : (compile ⟨["Go on!", "go", "on and"]⟩ false).covers ["go", "on", "and"] = true := by
  decide +kernel

lemma covers_of_mem_compile {l : IgnoreList} {caseSensitive : Bool} {p : List Token}
    (h : p ∈ (compile l caseSensitive).phrases) : (compile l caseSensitive).covers p = true := by
  have hs := Segmented.phrase h .nil
  rw [List.append_nil] at hs
  exact (covers_iff p).mpr ⟨ne_nil_of_mem_compile h, hs⟩

lemma containsWord_compile_iff (l : IgnoreList) (caseSensitive : Bool) (t : Token) :
    (compile l caseSensitive).containsWord t = true ↔
      ∃ entry ∈ l.phrases, tokenize caseSensitive entry = [t] := by
  rw [containsWord, List.contains_iff_mem, mem_compile]
  exact ⟨And.right, fun h => ⟨List.cons_ne_nil t [], h⟩⟩

lemma isEmpty_compile_iff (l : IgnoreList) (caseSensitive : Bool) :
    (compile l caseSensitive).isEmpty = false ↔
      ∃ ts, ts ≠ [] ∧ (compile l caseSensitive).covers ts = true := by
  rw [isEmpty, List.isEmpty_eq_false_iff]
  constructor
  · intro h
    obtain ⟨p, hp⟩ := List.exists_mem_of_ne_nil _ h
    exact ⟨p, ne_nil_of_mem_compile hp, covers_of_mem_compile hp⟩
  · rintro ⟨ts, hne, h⟩
    exact phrases_ne_nil_of_segmented ((covers_iff ts).mp h).2 hne

theorem containsWord_agrees (l : IgnoreList) (caseSensitive : Bool) (t : Token) :
    let v := compile l caseSensitive
    (v.containsWord t = true ↔ v.covers [t] = true) ∧
    v.coversForward [t] = v.covers [t] ∧
    (v.containsWord t = true ↔ ∃ entry ∈ l.phrases, tokenize caseSensitive entry = [t]) ∧
    (v.isEmpty = false ↔ ∃ ts, ts ≠ [] ∧ v.covers ts = true) := by
  intro v
  refine ⟨?_, coversForward_eq v [t], containsWord_compile_iff l caseSensitive t,
    isEmpty_compile_iff l caseSensitive⟩
  rw [containsWord_eq_covers]

end Vocabulary

end TurnTaking
