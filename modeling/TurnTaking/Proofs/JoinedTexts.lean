import TurnTaking.Proofs.ForwardSearch
import TurnTaking.Proofs.IgnorePhrases

namespace TurnTaking

namespace Filter

lemma segmented_tokens_iff (f : Filter) (text : String) :
    f.vocabulary.Segmented (f.tokens text) ↔ f.isIgnoreOnly text = true ∨ f.tokens text = [] := by
  rw [isIgnoreOnly_iff]
  constructor
  · intro h
    by_cases hn : f.tokens text = []
    · exact Or.inr hn
    · exact Or.inl ⟨hn, h⟩
  · rintro (⟨-, h⟩ | hn)
    · exact h
    · rw [hn]
      exact .nil

end Filter

theorem tokenize_separated {w : String} (hne : w ≠ "") (hw : Text.isBlankText w = true)
    (a b : String) :
    (∀ caseSensitive, tokenize caseSensitive (a ++ w ++ b) =
      tokenize caseSensitive a ++ tokenize caseSensitive b) ∧
    ∀ f : Filter, (f.isIgnoreOnly a = true ∨ f.tokens a = []) →
      (f.isIgnoreOnly b = true ∨ f.tokens b = []) → ¬ (f.tokens a = [] ∧ f.tokens b = []) →
      f.isIgnoreOnly (a ++ w ++ b) = true := by
  refine ⟨fun caseSensitive => tokenize_append_blanks caseSensitive hne hw a b, ?_⟩
  intro f ha hb hwords
  have htokens : f.tokens (a ++ w ++ b) = f.tokens a ++ f.tokens b :=
    tokenize_append_blanks f.config.caseSensitive hne hw a b
  have hsegmented := ((f.segmented_tokens_iff a).mpr ha).append ((f.segmented_tokens_iff b).mpr hb)
  rw [Filter.isIgnoreOnly_iff, htokens]
  refine ⟨?_, hsegmented⟩
  rw [Ne, List.append_eq_nil_iff]
  exact hwords

theorem tokenize_separated_sigma :
    let w := "\u3000\u0085"
    let f := Filter.ofValidated { ignoreList := ⟨["οδος", "uh-huh"]⟩ }
    w ≠ "" ∧ Text.isBlankText w = true ∧
      tokenize false ("ΟΔΟΣ" ++ w ++ "'ΣΑ") = ["οδος", "σα"] ∧
      f.isIgnoreOnly "ΟΔΟΣ'" = true ∧ f.tokens "--" = [] ∧
      f.isIgnoreOnly ("ΟΔΟΣ'" ++ w ++ "--") = true := by
  intro w f
  have hne : w ≠ "" := by decide
  have hw : Text.isBlankText w = true := by decide
  have ha : f.isIgnoreOnly "ΟΔΟΣ'" = true := by decide +kernel
  have hb : f.tokens "--" = [] := by decide +kernel
  refine ⟨hne, hw, ?_, ha, hb, ?_⟩
  · rw [(tokenize_separated hne hw "ΟΔΟΣ" "'ΣΑ").1]
    decide +kernel
  · apply (tokenize_separated hne hw "ΟΔΟΣ'" "--").2 f (Or.inl ha) (Or.inr hb)
    rintro ⟨hn, -⟩
    exact absurd hn (by decide +kernel)

namespace Text

lemma mem_words {w cs : List Char} (h : w ∈ words cs) :
    w ≠ [] ∧ ∀ c ∈ w, c ∈ cs ∧ isBlank c = false := by
  have hne : w.isEmpty = false := by simpa using (List.mem_filter.mp h).2
  refine ⟨List.isEmpty_eq_false_iff.mp hne, ?_⟩
  intro c hc
  have hflat : c ∈ (words cs).flatten := List.mem_flatten_of_mem h hc
  rw [flatten_words, List.mem_filter] at hflat
  simpa using hflat

lemma pieces_of_no_separator {separates : Char → Bool} {cs : List Char}
    (h : ∀ c ∈ cs, separates c = false) : pieces separates cs = [cs] := by
  induction cs with
  | nil => rfl
  | cons c cs ih =>
    rw [List.forall_mem_cons] at h
    have hcs := ih h.2
    rw [pieces, List.cons.injEq] at hcs
    simp [pieces, cut, h.1, hcs]

lemma words_of_no_blank {cs : List Char} (hne : cs ≠ []) (h : ∀ c ∈ cs, isBlank c = false) :
    words cs = [cs] := by
  rw [words, pieces_of_no_separator h]
  simp [hne]

end Text

structure Token.IsCanonical (caseSensitive : Bool) (t : Token) : Prop where
  ne_empty : t ≠ ""
  not_blank : ∀ c ∈ t.toList, Text.isBlank c = false
  not_punctuation : ∀ c ∈ t.toList, Text.isPunctuation c = false
  lower : caseSensitive = false → Text.lowercase t = t

namespace Token

lemma isCanonical_of_mem {caseSensitive : Bool} {s : String} {t : Token}
    (h : t ∈ tokenize caseSensitive s) : IsCanonical caseSensitive t := by
  rw [tokenize, tokensOf, List.mem_map] at h
  obtain ⟨w, hw, rfl⟩ := h
  obtain ⟨hne, hmem⟩ := Text.mem_words hw
  refine ⟨?_, ?_, ?_, ?_⟩
  · rw [Ne, ← String.toList_eq_nil_iff, String.toList_ofList]
    exact hne
  · intro c hc
    rw [String.toList_ofList] at hc
    exact (hmem c hc).2
  · intro c hc
    rw [String.toList_ofList] at hc
    simpa using (List.mem_filter.mp (hmem c hc).1).2
  · rintro rfl
    -- All characters come from a lower case, and such characters stay wherever they stand.
    apply (Text.lowercase_eq_self_iff _).mpr
    intro c hc
    rw [String.toList_ofList] at hc
    have hlower := (List.mem_filter.mp (hmem c hc).1).1
    rw [Text.toList_foldCase] at hlower
    exact Text.settled_of_mem_lowerFrom hlower

lemma tokenize_of_isCanonical {caseSensitive : Bool} {t : Token}
    (h : IsCanonical caseSensitive t) : tokenize caseSensitive t = [t] := by
  have hfold : Text.foldCase caseSensitive t = t := by
    cases caseSensitive with
    | false => exact h.lower rfl
    | true => rfl
  have hfilter : (t.toList.filter fun c => !Text.isPunctuation c) = t.toList := by
    apply List.filter_eq_self.mpr
    intro c hc
    rw [h.not_punctuation c hc]
    rfl
  have hne : t.toList ≠ [] := fun hn => h.ne_empty (String.toList_eq_nil_iff.mp hn)
  rw [tokenize, tokensOf, hfold, hfilter, Text.words_of_no_blank hne h.not_blank, List.map_singleton,
    String.ofList_toList]

end Token

lemma tokenize_intercalate (caseSensitive : Bool) (texts : List String) :
    tokenize caseSensitive (" ".intercalate texts) =
      texts.flatMap (tokenize caseSensitive) := by
  induction texts with
  | nil => cases caseSensitive <;> rfl
  | cons text rest ih =>
    by_cases hr : rest = []
    · rw [hr, String.intercalate_singleton, List.flatMap_singleton]
    · rw [String.intercalate_cons_of_ne_nil hr, List.flatMap_cons, ← ih]
      exact tokenize_append_blanks caseSensitive (by decide) (by decide) text _

lemma tokenize_intercalate_iff (caseSensitive : Bool) (ts : List Token) :
    tokenize caseSensitive (" ".intercalate ts) = ts ↔
      ∀ t ∈ ts, Token.IsCanonical caseSensitive t := by
  constructor
  · intro h t ht
    rw [← h] at ht
    exact Token.isCanonical_of_mem ht
  · intro h
    rw [tokenize_intercalate]
    induction ts with
    | nil => rfl
    | cons t ts ih =>
      rw [List.forall_mem_cons] at h
      rw [List.flatMap_cons, Token.tokenize_of_isCanonical h.1, ih h.2]
      rfl

theorem tokenize_canonical (caseSensitive : Bool) (s : String) :
    (∀ t ∈ tokenize caseSensitive s, Token.IsCanonical caseSensitive t) ∧
      tokenize caseSensitive (" ".intercalate (tokenize caseSensitive s)) =
        tokenize caseSensitive s := by
  have hall : ∀ t ∈ tokenize caseSensitive s, Token.IsCanonical caseSensitive t :=
    fun t ht => Token.isCanonical_of_mem ht
  exact ⟨hall, (tokenize_intercalate_iff caseSensitive _).mpr hall⟩

theorem tokenize_canonical_sigma :
    tokenize false "ΑΣ-Α,\u2003İ!" = ["αςα", "i\u0307"] ∧ Token.IsCanonical false "αςα" ∧
      tokenize false "αςα i\u0307" = ["αςα", "i\u0307"] := by
  have ht : tokenize false "ΑΣ-Α,\u2003İ!" = ["αςα", "i\u0307"] := by decide +kernel
  obtain ⟨hall, hagain⟩ := tokenize_canonical false "ΑΣ-Α,\u2003İ!"
  rw [ht] at hall hagain
  exact ⟨ht, hall "αςα" (by simp), hagain⟩

end TurnTaking
