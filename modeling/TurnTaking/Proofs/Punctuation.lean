import Mathlib.Data.List.Basic
import TurnTaking.Proofs.Tokenization

/-!
While the case is settled punctuation still stands in the text, and a capital sigma looks at it.
-/

namespace TurnTaking

namespace Text

lemma settled_of_punctuation {c : Char} (h : isPunctuation c = true) : Settled c :=
  settled_of_inSpans (by decide +kernel) (by decide +kernel) h

lemma not_isPunctuation_of_mem_lowerChar {c d : Char} (hc : isPunctuation c = false)
    (h : d ∈ lowerChar c) : isPunctuation d = false :=
  not_inSpans_of_mem_lowerChar (by decide +kernel) (by decide) (by decide) hc h

lemma not_isPunctuation_of_mem_lowerAt {before after : List Char} {c d : Char}
    (hc : isPunctuation c = false) (h : d ∈ lowerAt before c after) : isPunctuation d = false := by
  rw [lowerAt] at h
  split at h
  · rw [List.mem_singleton] at h
    rw [h]
    split <;> decide
  · exact not_isPunctuation_of_mem_lowerChar hc h

lemma not_isPunctuation_of_mem_lowerFrom {before cs : List Char} {d : Char}
    (hcs : ∀ c ∈ cs, isPunctuation c = false) (h : d ∈ lowerFrom before cs) :
    isPunctuation d = false := by
  induction cs generalizing before with
  | nil => cases h
  | cons c cs ih =>
    rw [List.forall_mem_cons] at hcs
    rw [lowerFrom, List.mem_append] at h
    rcases h with h | h
    · exact not_isPunctuation_of_mem_lowerAt hcs.1 h
    · exact ih hcs.2 h

def bare (cs : List Char) : List Char := cs.filter fun c => !isPunctuation c

@[simp] lemma bare_nil : bare [] = [] := rfl

lemma bare_cons_punctuation {c : Char} (h : isPunctuation c = true) (cs : List Char) :
    bare (c :: cs) = bare cs := by
  simp [bare, h]

lemma bare_cons_other {c : Char} (h : isPunctuation c = false) (cs : List Char) :
    bare (c :: cs) = c :: bare cs := by
  simp [bare, h]

lemma count_sigma_bare (cs : List Char) : (bare cs).count 'Σ' = cs.count 'Σ' :=
  List.count_filter (by decide)

lemma bare_append (xs ys : List Char) : bare (xs ++ ys) = bare xs ++ bare ys :=
  List.filter_append xs ys

lemma bare_eq_self {cs : List Char} (h : ∀ c ∈ cs, isPunctuation c = false) : bare cs = cs := by
  apply List.filter_eq_self.mpr
  intro c hc
  rw [h c hc]
  rfl

lemma not_isPunctuation_of_mem_bare {cs : List Char} {c : Char} (h : c ∈ bare cs) :
    isPunctuation c = false := by
  simpa using (List.mem_filter.mp h).2

lemma bare_bare (cs : List Char) : bare (bare cs) = bare cs :=
  bare_eq_self fun _ hc => not_isPunctuation_of_mem_bare hc

def unpunctuated (s : String) : String := String.ofList (bare s.toList)

lemma toList_unpunctuated (s : String) : (unpunctuated s).toList = bare s.toList := by
  rw [unpunctuated, String.toList_ofList]

/-- For each capital sigma, in their order, whether it ends its word. The text before is given
backwards. -/
def sigmaEndsFrom (before : List Char) : List Char → List Bool
  | [] => []
  | c :: cs =>
    if c = 'Σ' then endsWord before cs :: sigmaEndsFrom (c :: before) cs
    else sigmaEndsFrom (c :: before) cs

def sigmaEnds (s : String) : List Bool := sigmaEndsFrom [] s.toList

def smallSigma (ends : Bool) : Char := if ends then 'ς' else 'σ'

def lowerGiven : List Bool → List Char → List Char
  | _, [] => []
  | ends, c :: cs =>
    if c = 'Σ' then smallSigma (ends.headD false) :: lowerGiven ends.tail cs
    else lowerChar c ++ lowerGiven ends cs

lemma lowerGiven_sigma (e : Bool) (ends : List Bool) (cs : List Char) :
    lowerGiven (e :: ends) ('Σ' :: cs) = smallSigma e :: lowerGiven ends cs := rfl

lemma lowerGiven_cons_of_ne {c : Char} (h : c ≠ 'Σ') (ends : List Bool) (cs : List Char) :
    lowerGiven ends (c :: cs) = lowerChar c ++ lowerGiven ends cs := by
  rw [lowerGiven, if_neg h]

lemma lowerAt_sigma (before after : List Char) :
    lowerAt before 'Σ' after = [smallSigma (endsWord before after)] := rfl

lemma lowerAt_of_ne {c : Char} (h : c ≠ 'Σ') (before after : List Char) :
    lowerAt before c after = lowerChar c := by
  rw [lowerAt, if_neg h]

lemma sigmaEndsFrom_sigma (before cs : List Char) :
    sigmaEndsFrom before ('Σ' :: cs) =
      endsWord before cs :: sigmaEndsFrom ('Σ' :: before) cs := rfl

lemma sigmaEndsFrom_cons_of_ne {c : Char} (h : c ≠ 'Σ') (before cs : List Char) :
    sigmaEndsFrom before (c :: cs) = sigmaEndsFrom (c :: before) cs := by
  rw [sigmaEndsFrom, if_neg h]

lemma sigmaEndsFrom_of_notMem {cs : List Char} (h : 'Σ' ∉ cs) (before : List Char) :
    sigmaEndsFrom before cs = [] := by
  induction cs generalizing before with
  | nil => rfl
  | cons c cs ih =>
    rw [List.mem_cons, not_or] at h
    rw [sigmaEndsFrom_cons_of_ne (Ne.symm h.1), ih h.2]

lemma length_sigmaEndsFrom (before cs : List Char) :
    (sigmaEndsFrom before cs).length = cs.count 'Σ' := by
  induction cs generalizing before with
  | nil => rfl
  | cons c cs ih =>
    by_cases hs : c = 'Σ'
    · rw [hs, sigmaEndsFrom_sigma, List.length_cons, ih, List.count_cons_self]
    · rw [sigmaEndsFrom_cons_of_ne hs, ih, List.count_cons_of_ne hs]

lemma bare_lowerFrom (before cs : List Char) :
    bare (lowerFrom before cs) = lowerGiven (sigmaEndsFrom before cs) (bare cs) := by
  induction cs generalizing before with
  | nil => rfl
  | cons c cs ih =>
    -- What stands before keeps its punctuation, since a later sigma looks at it.
    rw [lowerFrom, bare_append, ih]
    cases hp : isPunctuation c with
    | true =>
      have hs : c ≠ 'Σ' := (settled_of_punctuation hp).ne_sigma
      rw [(settled_of_punctuation hp).lowerAt, bare_cons_punctuation hp, bare_nil, List.nil_append,
        bare_cons_punctuation hp, sigmaEndsFrom_cons_of_ne hs]
    | false =>
      have hat : bare (lowerAt before c cs) = lowerAt before c cs :=
        bare_eq_self fun d hd => not_isPunctuation_of_mem_lowerAt hp hd
      rw [hat, bare_cons_other hp]
      by_cases hs : c = 'Σ'
      · rw [hs, lowerAt_sigma, sigmaEndsFrom_sigma, lowerGiven_sigma, List.singleton_append]
      · rw [lowerAt_of_ne hs, sigmaEndsFrom_cons_of_ne hs, lowerGiven_cons_of_ne hs]

lemma lowerGiven_injective {cs : List Char} {ends ends' : List Bool}
    (hl : ends.length = cs.count 'Σ') (hl' : ends'.length = cs.count 'Σ')
    (h : (lowerGiven ends cs).filter (fun c => !isBlank c) =
      (lowerGiven ends' cs).filter fun c => !isBlank c) : ends = ends' := by
  induction cs generalizing ends ends' with
  | nil =>
    rw [List.count_nil, List.length_eq_zero_iff] at hl hl'
    rw [hl, hl']
  | cons c cs ih =>
    by_cases hs : c = 'Σ'
    · subst hs
      rw [List.count_cons_self] at hl hl'
      obtain ⟨e, ends, rfl⟩ := List.exists_cons_of_length_eq_add_one hl
      obtain ⟨e', ends', rfl⟩ := List.exists_cons_of_length_eq_add_one hl'
      have hsigma : ∀ b : Bool, (!isBlank (smallSigma b)) = true := by decide
      have hinj : ∀ b b' : Bool, smallSigma b = smallSigma b' → b = b' := by decide
      rw [lowerGiven_sigma, lowerGiven_sigma,
        List.filter_cons_of_pos (p := fun c => !isBlank c) (hsigma e),
        List.filter_cons_of_pos (p := fun c => !isBlank c) (hsigma e'), List.cons.injEq] at h
      rw [hinj e e' h.1, ih (by simpa using hl) (by simpa using hl') h.2]
    · rw [List.count_cons_of_ne hs] at hl hl'
      rw [lowerGiven_cons_of_ne hs, lowerGiven_cons_of_ne hs, List.filter_append,
        List.filter_append, List.append_cancel_left_eq] at h
      exact ih hl hl' h

lemma facesCased_bare {xs : List Char}
    (h : ∀ c ∈ xs, isPunctuation c = true → isCaseIgnorable c = true) :
    facesCased (bare xs) = facesCased xs := by
  induction xs with
  | nil => rfl
  | cons x xs ih =>
    rw [List.forall_mem_cons] at h
    have hxs := ih h.2
    -- Both look at the first character that is not ignorable; it is no punctuation.
    rw [facesCased, facesCased] at hxs ⊢
    cases hi : isCaseIgnorable x with
    | true =>
      rw [List.dropWhile_cons_of_pos hi, ← hxs]
      cases hp : isPunctuation x with
      | true => rw [bare_cons_punctuation hp]
      | false => rw [bare_cons_other hp, List.dropWhile_cons_of_pos hi]
    | false =>
      have hp : isPunctuation x = false := by
        rw [Bool.eq_false_iff]
        intro hp
        rw [h.1 hp] at hi
        cases hi
      rw [bare_cons_other hp, List.dropWhile_cons_of_neg (by simp [hi]),
        List.dropWhile_cons_of_neg (by simp [hi])]

lemma sigmaEndsFrom_bare {before cs : List Char}
    (hb : ∀ c ∈ before, isPunctuation c = true → isCaseIgnorable c = true)
    (h : ∀ c ∈ cs, isPunctuation c = true → isCaseIgnorable c = true) :
    sigmaEndsFrom (bare before) (bare cs) = sigmaEndsFrom before cs := by
  induction cs generalizing before with
  | nil => rfl
  | cons c cs ih =>
    rw [List.forall_mem_cons] at h
    have hnext := ih (List.forall_mem_cons.mpr ⟨h.1, hb⟩) h.2
    cases hp : isPunctuation c with
    | true =>
      have hs : c ≠ 'Σ' := (settled_of_punctuation hp).ne_sigma
      rw [bare_cons_punctuation hp] at hnext ⊢
      rw [hnext, sigmaEndsFrom_cons_of_ne hs]
    | false =>
      rw [bare_cons_other hp] at hnext ⊢
      by_cases hs : c = 'Σ'
      · rw [hs] at hnext ⊢
        rw [sigmaEndsFrom_sigma, sigmaEndsFrom_sigma, hnext, endsWord, endsWord,
          facesCased_bare hb, facesCased_bare h.2]
      · rw [sigmaEndsFrom_cons_of_ne hs, sigmaEndsFrom_cons_of_ne hs, hnext]

lemma sigmaEnds_unpunctuated {s : String}
    (h : 'Σ' ∉ s.toList ∨ ∀ c ∈ s.toList, isPunctuation c = true → isCaseIgnorable c = true) :
    sigmaEnds (unpunctuated s) = sigmaEnds s := by
  rw [sigmaEnds, sigmaEnds, toList_unpunctuated]
  rcases h with h | h
  · have hbare : 'Σ' ∉ bare s.toList := fun hm => h (List.mem_filter.mp hm).1
    rw [sigmaEndsFrom_of_notMem h, sigmaEndsFrom_of_notMem hbare]
  · exact sigmaEndsFrom_bare (List.forall_mem_nil _) h

end Text

lemma tokensOf_eq (cs : List Char) :
    tokensOf cs = (Text.words (Text.bare cs)).map String.ofList := rfl

lemma tokenize_insensitive (s : String) :
    tokenize false s = (Text.words (Text.lowerGiven (Text.sigmaEnds s)
      (Text.bare s.toList))).map String.ofList := by
  rw [tokenize, tokensOf_eq, Text.toList_foldCase, Text.sigmaEnds, ← Text.bare_lowerFrom]
  rfl

lemma tokenize_eq_iff_sigmaEnds {a b : String} (h : Text.unpunctuated a = Text.unpunctuated b) :
    tokenize true a = tokenize true b ∧
      (tokenize false a = tokenize false b ↔ Text.sigmaEnds a = Text.sigmaEnds b) := by
  have hbare : Text.bare a.toList = Text.bare b.toList := by
    rw [← Text.toList_unpunctuated, h, Text.toList_unpunctuated]
  refine ⟨?_, ?_⟩
  · rw [tokenize, tokenize, tokensOf_eq, tokensOf_eq]
    exact congrArg (fun cs => (Text.words cs).map String.ofList) hbare
  · rw [tokenize_insensitive, tokenize_insensitive, hbare]
    constructor
    · intro htokens
      have hwords := List.map_injective_iff.mpr (fun _ _ he => String.ofList_injective he) htokens
      have hletters := congrArg List.flatten hwords
      rw [Text.flatten_words, Text.flatten_words] at hletters
      apply Text.lowerGiven_injective _ _ hletters
      · rw [Text.sigmaEnds, Text.length_sigmaEndsFrom, ← Text.count_sigma_bare, hbare]
      · rw [Text.sigmaEnds, Text.length_sigmaEndsFrom, Text.count_sigma_bare]
    · intro hends
      rw [hends]

example : tokenize false "ΑΣ-Α" = ["αςα"] ∧ tokenize false "ΑΣΑ" = ["ασα"] := by decide +kernel

def tokenizeUnpunctuated (caseSensitive : Bool) (s : String) : List Token :=
  (Text.words (Text.foldCase caseSensitive (Text.unpunctuated s)).toList).map String.ofList

lemma tokenizeUnpunctuated_eq (caseSensitive : Bool) (s : String) :
    tokenizeUnpunctuated caseSensitive s = tokenize caseSensitive (Text.unpunctuated s) := by
  have hbare : ∀ c ∈ (Text.unpunctuated s).toList, Text.isPunctuation c = false := by
    intro c hc
    rw [Text.toList_unpunctuated] at hc
    exact Text.not_isPunctuation_of_mem_bare hc
  rw [tokenizeUnpunctuated, tokenize, tokensOf_eq, Text.bare_eq_self]
  intro c hc
  rw [Text.toList_foldCase] at hc
  cases caseSensitive with
  | true => exact hbare c hc
  | false => exact Text.not_isPunctuation_of_mem_lowerFrom hbare hc

/-- Punctuation may be deleted after the case is settled or before: the tokens are the same exactly
if the same capital sigmas end words in the text with its punctuation and without. -/
theorem tokenize_specified_iff (text : String) :
    tokenize true text = tokenizeUnpunctuated true text ∧
    (tokenize false text = tokenizeUnpunctuated false text ↔
      Text.sigmaEnds text = Text.sigmaEnds (Text.unpunctuated text)) ∧
    (∀ other, Text.unpunctuated other = Text.unpunctuated text →
      tokenize true other = tokenize true text ∧
      (tokenize false other = tokenize false text ↔
        Text.sigmaEnds other = Text.sigmaEnds text)) ∧
    ('Σ' ∉ text.toList ∨
        (∀ c ∈ text.toList, Text.isPunctuation c = true → Text.isCaseIgnorable c = true) →
      tokenize false text = tokenizeUnpunctuated false text) := by
  have hbare : Text.unpunctuated text = Text.unpunctuated (Text.unpunctuated text) := by
    rw [Text.unpunctuated, Text.unpunctuated, String.toList_ofList, Text.bare_bare]
  obtain ⟨hsensitive, hinsensitive⟩ := tokenize_eq_iff_sigmaEnds hbare
  rw [tokenizeUnpunctuated_eq, tokenizeUnpunctuated_eq]
  refine ⟨hsensitive, hinsensitive, fun other ho => tokenize_eq_iff_sigmaEnds ho, ?_⟩
  intro h
  exact hinsensitive.mpr (Text.sigmaEnds_unpunctuated h).symm

theorem tokenize_specified_iff_sigmas :
    let text := "ΑΣ.Α: 'ΟΔΟΣ'"
    let other := "(ΑΣΑ) -ΟΔΟΣ!"
    Text.unpunctuated other = Text.unpunctuated text ∧
      tokenize false text = tokenizeUnpunctuated false text ∧
      tokenize false other = tokenize false text ∧
      tokenize false text = ["ασα", "οδος"] := by
  intro text other
  obtain ⟨-, -, hothers, hsame⟩ := tokenize_specified_iff text
  have ho : Text.unpunctuated other = Text.unpunctuated text := by decide +kernel
  have hall : (text.toList.all fun c => !Text.isPunctuation c || Text.isCaseIgnorable c) = true := by
    decide +kernel
  have hkinds : ∀ c ∈ text.toList, Text.isPunctuation c = true → Text.isCaseIgnorable c = true := by
    intro c hc hp
    simpa [hp] using List.all_eq_true.mp hall c hc
  refine ⟨ho, hsame (Or.inr hkinds), (hothers other ho).2.mpr ?_, ?_⟩
  · decide +kernel
  · decide +kernel

theorem tokenize_sees_hyphen :
    ¬ ∀ (caseSensitive : Bool) (text : String),
      tokenize caseSensitive text = tokenizeUnpunctuated caseSensitive text := by
  intro h
  exact absurd (h false "ΑΣ-Α") (by decide +kernel)

end TurnTaking
