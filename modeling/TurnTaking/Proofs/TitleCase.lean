import TurnTaking.Proofs.Validation

/-!
Letters of title case, a capital and a small letter in one such as `ǅ`, are not upper case and still
have a lower case.
-/

namespace TurnTaking

namespace Text

namespace Stride

def within (s t : Stride) : Bool :=
  Nat.ble t.first s.first && Nat.ble s.last t.last && (s.first - t.first) % t.stride == 0 &&
    (s.stride % t.stride == 0 || s.first == s.last)

lemma contains_of_within {s t : Stride} (h : s.within t = true) {n : Nat}
    (hs : s.contains n = true) : t.contains n = true := by
  simp only [within, Bool.and_eq_true, Bool.or_eq_true, beq_iff_eq, Nat.ble_eq] at h
  obtain ⟨⟨⟨hf, hl⟩, hm⟩, hd⟩ := h
  obtain ⟨hf', hl', hm'⟩ := (s.contains_iff n).mp hs
  refine (t.contains_iff n).mpr ⟨by omega, by omega, ?_⟩
  rcases hd with hd | he
  · have hn : n - t.first = (n - s.first) + (s.first - t.first) := by omega
    rw [hn]
    refine Nat.mod_eq_zero_of_dvd (Nat.dvd_add ?_ (Nat.dvd_of_mod_eq_zero hm))
    exact (Nat.dvd_of_mod_eq_zero hd).trans (Nat.dvd_of_mod_eq_zero hm')
  · obtain rfl : n = s.first := by omega
    exact hm

def rest (s : Stride) : Stride := ⟨s.first + s.stride, s.last, s.stride⟩

lemma eq_first_or_rest_contains {s : Stride} {n : Nat} (h : s.contains n = true) :
    n = s.first ∨ s.rest.contains n = true := by
  obtain ⟨hf, hl, hm⟩ := (s.contains_iff n).mp h
  by_cases hn : n = s.first
  · exact Or.inl hn
  · have hle : s.stride ≤ n - s.first := Nat.le_of_dvd (by omega) (Nat.dvd_of_mod_eq_zero hm)
    have hsub : n - (s.first + s.stride) = n - s.first - s.stride := by omega
    refine Or.inr ((s.rest.contains_iff n).mpr ⟨?_, hl, ?_⟩)
    · simp only [rest]
      omega
    · simp only [rest]
      rw [hsub, ← Nat.mod_eq_sub_mod hle]
      exact hm

/-- A sufficient condition for all code points of `s` to be among those of `ts`: one stride has all
of them, or all but the first. -/
def covered (ts : List Stride) (s : Stride) : Bool :=
  ts.any s.within || (ts.any fun t => t.contains s.first) && ts.any s.rest.within

lemma contains_of_covered {ts : List Stride} {s : Stride} (h : s.covered ts = true) {n : Nat}
    (hs : s.contains n = true) : (ts.any fun t => t.contains n) = true := by
  simp only [covered, Bool.or_eq_true, Bool.and_eq_true, List.any_eq_true] at h ⊢
  rcases h with ⟨t, ht, hw⟩ | ⟨⟨t, ht, hf⟩, t', ht', hw⟩
  · exact ⟨t, ht, contains_of_within hw hs⟩
  · rcases eq_first_or_rest_contains hs with rfl | hr
    · exact ⟨t, ht, hf⟩
    · exact ⟨t', ht', contains_of_within hw hr⟩

end Stride

def titleStrides : List Stride :=
  [⟨453, 453, 1⟩, ⟨456, 456, 1⟩, ⟨459, 459, 1⟩, ⟨498, 498, 1⟩, ⟨8072, 8079, 1⟩, ⟨8088, 8095, 1⟩,
    ⟨8104, 8111, 1⟩, ⟨8124, 8124, 1⟩, ⟨8140, 8140, 1⟩, ⟨8188, 8188, 1⟩]

def isTitle (c : Char) : Bool :=
  inStrides titleStrides c

lemma not_settled_of_isTitle {c : Char} (h : isTitle c = true) : ¬ Settled c := by
  have htable : (titleStrides.all fun s => lowerShifts.any fun t => s.within t.source) = true := by
    decide +kernel
  obtain ⟨s, hs, hsc⟩ := List.any_eq_true.mp h
  obtain ⟨t, ht, hw⟩ := List.any_eq_true.mp (List.all_eq_true.mp htable s hs)
  rintro ⟨-, hall⟩
  have hn := hall t ht
  rw [Stride.contains_of_within hw hsc] at hn
  cases hn

lemma isUpper_or_isTitle {c : Char} (h : ¬ Settled c) : isUpper c = true ∨ isTitle c = true := by
  have htable : (lowerShifts.all fun s => s.source.covered (upperStrides ++ titleStrides)) = true := by
    decide +kernel
  rw [Settled, not_and_or, not_ne_iff] at h
  rcases h with rfl | h
  · exact Or.inl (by decide +kernel)
  · push Not at h
    obtain ⟨s, hs, hsc⟩ := h
    have hcovered := List.all_eq_true.mp htable s hs
    have hany := Stride.contains_of_covered hcovered (Bool.eq_true_of_not_eq_false hsc)
    rw [List.any_append, Bool.or_eq_true] at hany
    exact hany

end Text

namespace IgnoreList

def isPassedOver (phrase : String) : Bool :=
  phrase.toList.any Text.isTitle && !phrase.toList.any Text.isUpper

lemma foldPhrase_of_not_passedOver {phrase : String} (h : isPassedOver phrase = false) :
    foldPhrase phrase = Text.lowercase phrase := by
  rw [foldPhrase]
  split
  · rfl
  · rename_i hu
    rw [Bool.not_eq_true] at hu
    simp only [isPassedOver, hu, Bool.not_false, Bool.and_true] at h
    rw [List.any_eq_false] at h hu
    refine ((Text.lowercase_eq_self_iff phrase).mpr ?_).symm
    intro c hc
    by_contra hs
    exact (Text.isUpper_or_isTitle hs).elim (hu c hc) (h c hc)

lemma foldPhrase_of_passedOver {phrase : String} (h : isPassedOver phrase = true) :
    foldPhrase phrase = phrase ∧ Text.lowercase phrase ≠ phrase := by
  rw [isPassedOver, Bool.and_eq_true, List.any_eq_true, Bool.not_eq_true'] at h
  obtain ⟨⟨c, hc, ht⟩, hu⟩ := h
  refine ⟨?_, ?_⟩
  · rw [foldPhrase, hu]
    rfl
  · rw [Ne, Text.lowercase_eq_self_iff]
    intro hall
    exact Text.not_settled_of_isTitle ht (hall c hc)

end IgnoreList

namespace FilterConfig

/-- Validation lowers the phrases of a list for which case does not matter, save those that have
letters of title case and no upper-case character: these stay, though they have a lower case. -/
theorem validate_lowers {c : FilterConfig} (hc : c.caseSensitive = false)
    (h : c.validate.1 = .ok ()) :
    List.Forall₂
      (fun phrase new =>
        (IgnoreList.isPassedOver phrase = false →
          new = Text.lowercase phrase ∧ Text.lowercase new = new) ∧
        (IgnoreList.isPassedOver phrase = true → new = phrase ∧ Text.lowercase new ≠ new))
      c.ignoreList.phrases c.validate.2.ignoreList.phrases := by
  rw [validate_of_error?_eq_none ((validate_eq_ok_iff c).mp h), phrases_folded, hc]
  simp only [Bool.false_eq_true, if_false]
  rw [List.forall₂_map_right_iff, List.forall₂_same]
  intro phrase _
  refine ⟨?_, ?_⟩
  · intro hp
    rw [IgnoreList.foldPhrase_of_not_passedOver hp]
    exact ⟨rfl, Text.lowercase_lowercase phrase⟩
  · intro hp
    obtain ⟨hfold, hlower⟩ := IgnoreList.foldPhrase_of_passedOver hp
    rw [hfold]
    exact ⟨rfl, hlower⟩

theorem validate_lowers_beside_title_letters :
    let c : FilterConfig := { ignoreList := ⟨["aǅ", "Aǅ", "ΟΔΟΣ", "ᾈ 𝐀"]⟩ }
    c.validate.1 = .ok () ∧
      List.Forall₂
        (fun phrase new =>
          (IgnoreList.isPassedOver phrase = false →
            new = Text.lowercase phrase ∧ Text.lowercase new = new) ∧
          (IgnoreList.isPassedOver phrase = true → new = phrase ∧ Text.lowercase new ≠ new))
        c.ignoreList.phrases c.validate.2.ignoreList.phrases ∧
      c.validate.2.ignoreList.phrases = ["aǅ", "aǆ", "οδος", "ᾀ 𝐀"] := by
  intro c
  have hok : c.validate.1 = .ok () := rfl
  exact ⟨hok, validate_lowers rfl hok, by decide +kernel⟩

theorem validate_leaves_title_letter :
    ¬ ∀ c : FilterConfig, c.caseSensitive = false → c.validate.1 = .ok () →
      List.Forall₂ (fun phrase new => new = Text.lowercase phrase ∧ Text.lowercase new = new)
        c.ignoreList.phrases c.validate.2.ignoreList.phrases := by
  intro h
  have hphrases := h { ignoreList := ⟨["ǅ"]⟩ } rfl rfl
  have hstays : (validate { ignoreList := ⟨["ǅ"]⟩ }).2.ignoreList.phrases = ["ǅ"] := by
    decide +kernel
  rw [hstays, List.forall₂_cons] at hphrases
  exact absurd hphrases.1.1 (by decide +kernel)

end FilterConfig

end TurnTaking
