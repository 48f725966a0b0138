import Mathlib.Tactic.Common
import TurnTaking.Text.Blank
import TurnTaking.Text.Lowercase

/-! Two tables of letters are compared span by span, so each comparison is one evaluation. -/

namespace TurnTaking.Text

namespace Span

def apart (s t : Span) : Bool :=
  Nat.blt s.last t.first || Nat.blt t.last s.first

lemma not_contains_of_apart {s t : Span} (h : s.apart t = true) {n : Nat}
    (hs : s.contains n = true) : t.contains n = false := by
  rw [contains_iff] at hs
  rw [Bool.eq_false_iff, ne_eq, contains_iff]
  simp only [apart, Bool.or_eq_true, Nat.blt_eq] at h
  omega

end Span

namespace Stride

def span (s : Stride) : Span := ⟨s.first, s.last⟩

lemma span_contains {s : Stride} {n : Nat} (h : s.contains n = true) :
    s.span.contains n = true := by
  obtain ⟨hf, hl, -⟩ := (s.contains_iff n).mp h
  exact (s.span.contains_iff n).mpr ⟨hf, hl⟩

/-- A sufficient condition: the spans are apart, or both have every second character and begin at
different parities, or the first one is a single character that the second one lacks. -/
def apart (s t : Stride) : Bool :=
  s.span.apart t.span ||
    (s.stride == 2 && t.stride == 2 && s.first % 2 != t.first % 2) ||
    (s.first == s.last && !t.contains s.first)

lemma not_contains_of_apart {s t : Stride} (h : s.apart t = true) {n : Nat}
    (hs : s.contains n = true) : t.contains n = false := by
  simp only [apart, Bool.or_eq_true, Bool.and_eq_true, beq_iff_eq, bne_iff_ne, ne_eq,
    Bool.not_eq_true'] at h
  rcases h with (h | ⟨⟨hs2, ht2⟩, hp⟩) | ⟨he, ht⟩
  · rw [Bool.eq_false_iff]
    intro ht
    have hn := Span.not_contains_of_apart h (span_contains hs)
    rw [span_contains ht] at hn
    cases hn
  · obtain ⟨hf, -, hm⟩ := (s.contains_iff n).mp hs
    rw [Bool.eq_false_iff, ne_eq, contains_iff]
    rintro ⟨hf', -, hm'⟩
    rw [hs2] at hm
    rw [ht2] at hm'
    omega
  · obtain ⟨hf, hl, -⟩ := (s.contains_iff n).mp hs
    obtain rfl : n = s.first := by omega
    exact ht

end Stride

lemma not_inSpans_of_apart {ss ts : List Span}
    (h : (ss.all fun s => ts.all fun t => s.apart t) = true) {c : Char}
    (hc : inSpans ss c = true) : inSpans ts c = false := by
  obtain ⟨s, hs, hsc⟩ := List.any_eq_true.mp hc
  rw [inSpans, List.any_eq_false]
  intro t ht
  have ha := List.all_eq_true.mp (List.all_eq_true.mp h s hs) t ht
  rw [Span.not_contains_of_apart ha hsc]
  simp

lemma isCased_of_blank {c : Char} (h : isBlank c = true) : isCased c = false :=
  not_inSpans_of_apart (by decide +kernel) h

lemma isCaseIgnorable_of_blank {c : Char} (h : isBlank c = true) : isCaseIgnorable c = false :=
  not_inSpans_of_apart (by decide +kernel) h

def Settled (c : Char) : Prop :=
  c ≠ 'İ' ∧ ∀ s ∈ lowerShifts, s.source.contains c.toNat = false

instance (c : Char) : Decidable (Settled c) :=
  inferInstanceAs (Decidable (_ ∧ _))

lemma Settled.lowerChar {c : Char} (h : Settled c) : lowerChar c = [c] := by
  have hf : (lowerShifts.find? fun s => s.source.contains c.toNat) = none := by
    rw [List.find?_eq_none]
    intro s hs
    rw [h.2 s hs]
    simp
  rw [Text.lowerChar, if_neg h.1, lowerCode, hf, Char.ofNat_toNat]

lemma Settled.ne_sigma {c : Char} (h : Settled c) : c ≠ 'Σ' := by
  rintro rfl
  exact absurd h (by decide +kernel)

lemma Settled.lowerAt {c : Char} (h : Settled c) (before after : List Char) :
    lowerAt before c after = [c] := by
  rw [Text.lowerAt, if_neg h.ne_sigma, h.lowerChar]

lemma settled_of_inSpans {spans : List Span}
    (h : (spans.all fun b => lowerShifts.all fun s => b.apart s.source.span) = true)
    (hdot : inSpans spans 'İ' = false) {c : Char} (hc : inSpans spans c = true) : Settled c := by
  refine ⟨?_, ?_⟩
  · rintro rfl
    rw [hdot] at hc
    cases hc
  · intro s hs
    obtain ⟨b, hb, hbc⟩ := List.any_eq_true.mp hc
    have ha := List.all_eq_true.mp (List.all_eq_true.mp h b hb) s hs
    rw [Bool.eq_false_iff]
    intro hsc
    have hn := Span.not_contains_of_apart ha hbc
    rw [Stride.span_contains hsc] at hn
    cases hn

lemma settled_of_blank {c : Char} (h : isBlank c = true) : Settled c :=
  settled_of_inSpans (by decide +kernel) (by decide) h

namespace LowerShift

def image (s : LowerShift) : Stride :=
  ⟨(s.source.first + s.offset).toNat, (s.source.last + s.offset).toNat, s.source.stride⟩

def isSettled (s : LowerShift) : Bool :=
  decide (0 ≤ s.source.first + s.offset) && decide (s.image.last < 0x110000) &&
    s.image.span.apart ⟨0xD800, 0xDFFF⟩ && !s.image.contains 'İ'.toNat &&
    lowerShifts.all fun t => s.image.apart t.source

lemma isSettled_of_mem {s : LowerShift} (h : s ∈ lowerShifts) : s.isSettled = true := by
  -- Every image against every source: the one evaluation of this size.
  have ht : lowerShifts.all isSettled = true := by
    decide +kernel
  exact List.all_eq_true.mp ht s h

lemma image_contains {s : LowerShift} (ho : 0 ≤ s.source.first + s.offset) {n : Nat}
    (h : s.source.contains n = true) : s.image.contains (n + s.offset).toNat = true := by
  obtain ⟨hf, hl, hm⟩ := (s.source.contains_iff n).mp h
  have hd : (n + s.offset).toNat - s.image.first = n - s.source.first := by
    simp only [image]
    omega
  rw [Stride.contains_iff, hd]
  refine ⟨?_, ?_, hm⟩
  · simp only [image]
    omega
  · simp only [image]
    omega

lemma settled_of_image {s : LowerShift} (hs : s ∈ lowerShifts) {d : Char}
    (h : s.image.contains d.toNat = true) : Settled d := by
  have hset := isSettled_of_mem hs
  simp only [isSettled, Bool.and_eq_true, Bool.not_eq_true'] at hset
  obtain ⟨⟨-, hdot⟩, hall⟩ := hset
  refine ⟨?_, ?_⟩
  · rintro rfl
    rw [hdot] at h
    cases h
  · intro t ht
    exact Stride.not_contains_of_apart (List.all_eq_true.mp hall t ht) h

lemma image_contains_toNat {s : LowerShift} (hs : s ∈ lowerShifts) {n : Nat}
    (h : s.source.contains n = true) :
    s.image.contains (Char.ofNat (n + s.offset).toNat).toNat = true := by
  have hset := isSettled_of_mem hs
  simp only [isSettled, Bool.and_eq_true, decide_eq_true_eq] at hset
  obtain ⟨⟨⟨⟨ho, hmost⟩, hsurr⟩, -⟩, -⟩ := hset
  have hi := image_contains ho h
  obtain ⟨-, hl, -⟩ := (s.image.contains_iff _).mp hi
  have hgap := Span.not_contains_of_apart hsurr (Stride.span_contains hi)
  rw [Bool.eq_false_iff, ne_eq, Span.contains_iff] at hgap
  have hv : (n + s.offset).toNat.isValidChar := by
    simp only [Nat.isValidChar]
    simp only at hgap
    omega
  have ht : (Char.ofNat (n + s.offset).toNat).toNat = (n + s.offset).toNat := by
    rw [Char.ofNat, dif_pos hv]
    rfl
  rw [ht]
  exact hi

end LowerShift

lemma mem_lowerChar {c d : Char} (h : d ∈ lowerChar c) :
    d = c ∧ Settled c ∨ d = 'i' ∨ d = '\u0307' ∨
      ∃ s ∈ lowerShifts, s.image.contains d.toNat = true := by
  rw [lowerChar] at h
  split at h
  · have hd : d = 'i' ∨ d = '\u0307' := by simpa using h
    exact Or.inr (hd.imp_right Or.inl)
  · rename_i hc
    rw [List.mem_singleton, lowerCode] at h
    split at h
    · rename_i s hf
      have hs : s.source.contains c.toNat = true := by simpa using List.find?_some hf
      have hmem := List.mem_of_find?_eq_some hf
      rw [h]
      exact Or.inr (Or.inr (Or.inr ⟨s, hmem, LowerShift.image_contains_toNat hmem hs⟩))
    · rename_i hf
      rw [Char.ofNat_toNat] at h
      rw [List.find?_eq_none] at hf
      exact Or.inl ⟨h, hc, fun s hs => Bool.eq_false_iff.mpr (hf s hs)⟩

lemma not_inSpans_of_mem_lowerChar {spans : List Span}
    (h : (lowerShifts.all fun s => spans.all fun t => s.image.span.apart t) = true)
    (hi : inSpans spans 'i' = false) (hdot : inSpans spans '\u0307' = false) {c d : Char}
    (hc : inSpans spans c = false) (hd : d ∈ lowerChar c) : inSpans spans d = false := by
  rcases mem_lowerChar hd with ⟨rfl, -⟩ | rfl | rfl | ⟨s, hs, himage⟩
  · exact hc
  · exact hi
  · exact hdot
  · rw [inSpans, List.any_eq_false]
    intro t ht
    have hapart := List.all_eq_true.mp (List.all_eq_true.mp h s hs) t ht
    rw [Span.not_contains_of_apart hapart (Stride.span_contains himage)]
    simp

lemma settled_of_mem_lowerChar {c d : Char} (h : d ∈ lowerChar c) : Settled d := by
  rcases mem_lowerChar h with ⟨rfl, hc⟩ | rfl | rfl | ⟨s, hs, hi⟩
  · exact hc
  · decide +kernel
  · decide +kernel
  · exact LowerShift.settled_of_image hs hi

lemma settled_of_mem_lowerAt {before after : List Char} {c d : Char}
    (h : d ∈ lowerAt before c after) : Settled d := by
  rw [lowerAt] at h
  split at h
  · split at h
    · obtain rfl : d = 'ς' := by simpa using h
      decide +kernel
    · obtain rfl : d = 'σ' := by simpa using h
      decide +kernel
  · exact settled_of_mem_lowerChar h

end TurnTaking.Text
