import Mathlib.Data.List.Forall2
import TurnTaking.Proofs.DecisionRules
import TurnTaking.Proofs.Segmentation
import TurnTaking.Proofs.Tokenization

namespace TurnTaking

namespace Vocabulary

lemma compile_of_lowered {l new : IgnoreList}
    (h : List.Forall₂ (fun phrase lowered => lowered = phrase ∨ lowered = Text.lowercase phrase)
      l.phrases new.phrases) : compile new false = compile l false := by
  have htokens : List.Forall₂ (fun phrase lowered =>
      tokenize false phrase = tokenize false lowered) l.phrases new.phrases := by
    apply h.imp
    rintro phrase lowered (rfl | rfl)
    · rfl
    · exact (tokenize_lowercase phrase).symm
  have hmap : l.phrases.map (tokenize false) = new.phrases.map (tokenize false) := by
    rw [← List.forall₂_eq_eq_eq, List.forall₂_map_left_iff, List.forall₂_map_right_iff]
    exact htokens
  rw [compile, compile, hmap]

end Vocabulary

namespace IgnoreList

lemma forall₂_foldCase (l : IgnoreList) :
    List.Forall₂ (fun phrase new => new = phrase ∨ new = Text.lowercase phrase)
      l.phrases l.foldCase.phrases := by
  rw [phrases_foldCase, List.forall₂_map_right_iff, List.forall₂_same]
  intro phrase _
  rw [foldPhrase]
  split
  · exact Or.inr rfl
  · exact Or.inl rfl

end IgnoreList

namespace FilterConfig

@[simp] lemma enabled_folded (c : FilterConfig) : c.folded.enabled = c.enabled := by
  rw [folded]
  split <;> rfl

@[simp] lemma policy_folded (c : FilterConfig) : c.folded.policy = c.policy := by
  rw [folded]
  split <;> rfl

@[simp] lemma caseSensitive_folded (c : FilterConfig) :
    c.folded.caseSensitive = c.caseSensitive := by
  rw [folded]
  split <;> rfl

lemma compile_folded (c : FilterConfig) :
    Vocabulary.compile c.folded.ignoreList c.caseSensitive =
      Vocabulary.compile c.ignoreList c.caseSensitive := by
  rw [folded]
  cases hc : c.caseSensitive with
  | true => rfl
  | false => exact Vocabulary.compile_of_lowered c.ignoreList.forall₂_foldCase

end FilterConfig

namespace Filter

lemma build_ok_iff {c : FilterConfig} {f : Filter} :
    build c = .ok f ↔ c.error? = none ∧ f = ofValidated c.folded := by
  rw [build, FilterConfig.validated, FilterConfig.validate]
  cases c.error? with
  | some e => simp [Except.map]
  | none => simp [Except.map, eq_comm]

lemma build_ok {c : FilterConfig} {f : Filter} (h : build c = .ok f) : f = ofValidated c.folded :=
  (build_ok_iff.mp h).2

lemma vocabulary_of_build {c : FilterConfig} {f : Filter} (h : build c = .ok f) :
    f.vocabulary = .compile c.ignoreList c.caseSensitive := by
  rw [build_ok h, ofValidated, FilterConfig.caseSensitive_folded]
  exact c.compile_folded

lemma tokens_of_build {c : FilterConfig} {f : Filter} (h : build c = .ok f) (text : String) :
    f.tokens text = tokenize c.caseSensitive text := by
  rw [build_ok h, tokens, ofValidated, FilterConfig.caseSensitive_folded]

lemma mem_vocabulary_of_build {c : FilterConfig} {f : Filter} (h : build c = .ok f)
    (p : List Token) :
    p ∈ f.vocabulary.phrases ↔
      p ≠ [] ∧ ∃ phrase ∈ c.ignoreList.phrases, tokenize c.caseSensitive phrase = p := by
  rw [vocabulary_of_build h]
  exact Vocabulary.mem_compile

end Filter

def joined (first : String) : List (String × String) → String
  | [] => first
  | (separator, phrase) :: rest => first ++ separator ++ joined phrase rest

lemma tokenize_joined (caseSensitive : Bool) (first : String) {rest : List (String × String)}
    (h : ∀ r ∈ rest, r.1 ≠ "" ∧ Text.isBlankText r.1 = true) :
    tokenize caseSensitive (joined first rest) =
      (first :: rest.map Prod.snd).flatMap (tokenize caseSensitive) := by
  induction rest generalizing first with
  | nil => simp [joined]
  | cons r rest ih =>
    obtain ⟨separator, phrase⟩ := r
    rw [List.forall_mem_cons] at h
    obtain ⟨⟨hne, hb⟩, hr⟩ := h
    rw [joined, tokenize_append_blanks caseSensitive hne hb, ih phrase hr]
    rfl

lemma segmented_flatMap {v : Vocabulary} {caseSensitive : Bool} {phrases : List String}
    (h : ∀ p ∈ phrases, tokenize caseSensitive p ≠ [] → tokenize caseSensitive p ∈ v.phrases) :
    v.Segmented (phrases.flatMap (tokenize caseSensitive)) := by
  induction phrases with
  | nil => exact .nil
  | cons p phrases ih =>
    rw [List.forall_mem_cons] at h
    rw [List.flatMap_cons]
    by_cases hp : tokenize caseSensitive p = []
    · rw [hp, List.nil_append]
      exact ih h.2
    · exact .phrase (h.1 hp) (ih h.2)

namespace Filter

lemma isIgnoreOnly_iff (f : Filter) (text : String) :
    f.isIgnoreOnly text = true ↔ f.tokens text ≠ [] ∧ f.vocabulary.Segmented (f.tokens text) :=
  Vocabulary.covers_iff _

lemma isIgnoreOnly_joined {c : FilterConfig} {f : Filter} (hb : build c = .ok f) {first : String}
    {rest : List (String × String)}
    (hl : ∀ p ∈ first :: rest.map Prod.snd, p ∈ c.ignoreList.phrases)
    (hs : ∀ r ∈ rest, r.1 ≠ "" ∧ Text.isBlankText r.1 = true)
    (hw : ∃ p ∈ first :: rest.map Prod.snd, tokenize c.caseSensitive p ≠ []) :
    f.isIgnoreOnly (joined first rest) = true := by
  rw [isIgnoreOnly_iff, tokens_of_build hb, tokenize_joined c.caseSensitive first hs]
  refine ⟨?_, ?_⟩
  · obtain ⟨p, hp, hne⟩ := hw
    intro hn
    exact hne (List.flatMap_eq_nil_iff.mp hn p hp)
  · apply segmented_flatMap
    intro p hp hne
    exact (mem_vocabulary_of_build hb _).mpr ⟨hne, p, hl p hp, rfl⟩

theorem decide_joined_phrases {c : FilterConfig} {f : Filter} (hb : build c = .ok f)
    (he : c.enabled = true) (hp : c.policy = none) (first : String)
    (rest : List (String × String))
    (hl : ∀ p ∈ first :: rest.map Prod.snd, p ∈ c.ignoreList.phrases)
    (hs : ∀ r ∈ rest, r.1 ≠ "" ∧ Text.isBlankText r.1 = true)
    (hw : ∃ p ∈ first :: rest.map Prod.snd, tokenize c.caseSensitive p ≠ [])
    (calls : Nat) (state : Option String) :
    let d := (f.decide calls (joined first rest) true state).decision
    d.action = .filter ∧ d.rule? = some "backchanneling" := by
  intro d
  have hi := isIgnoreOnly_joined hb hl hs hw
  have hf := build_ok hb
  have he' : f.config.enabled = true := by
    rw [hf, ofValidated, FilterConfig.enabled_folded, he]
  have hp' : f.config.policy = none := by
    rw [hf, ofValidated, FilterConfig.policy_folded, hp]
  have hr : f.ruling none (joined first rest) true = .backchanneling := by
    simp [ruling, he', hi]
  have hd : d = Rule.backchanneling.decision none (joined first rest) := by
    rw [← hr]
    exact decision_of_no_policy hp' calls (joined first rest) true state
  rw [hd]
  exact ⟨rfl, rfl⟩

theorem decide_joined_phrases_capitals :
    ∃ f, build { ignoreList := ⟨["ΟΔΟΣ", "Got It, Σ!", "İyi", "--"]⟩ } = .ok f ∧
      let d := (f.decide 0 (joined "Got It, Σ!"
        [("\u00a0\t", "ΟΔΟΣ"), ("\u3000", "--"), (" ", "İyi")]) true none).decision
      d.action = .filter ∧ d.rule? = some "backchanneling" := by
  have hb : build { ignoreList := ⟨["ΟΔΟΣ", "Got It, Σ!", "İyi", "--"]⟩ } =
      .ok (ofValidated (FilterConfig.folded
        { ignoreList := ⟨["ΟΔΟΣ", "Got It, Σ!", "İyi", "--"]⟩ })) := rfl
  refine ⟨_, hb, decide_joined_phrases hb rfl rfl _ _ ?_ ?_ ?_ 0 none⟩
  · decide +kernel
  · decide +kernel
  · decide +kernel

theorem build_matches_given {c : FilterConfig} {f : Filter} (hb : build c = .ok f) :
    let given := Vocabulary.compile c.ignoreList c.caseSensitive
    f.vocabulary = given ∧
    (∀ p, p ∈ f.vocabulary.phrases ↔
      p ≠ [] ∧ ∃ phrase ∈ c.ignoreList.phrases, tokenize c.caseSensitive phrase = p) ∧
    (∀ text, f.isIgnoreOnly text = given.covers (tokenize c.caseSensitive text)) ∧
    (∀ text, f.hasCommandWords text =
      (!(tokenize c.caseSensitive text).isEmpty &&
        !given.covers (tokenize c.caseSensitive text))) ∧
    ∀ t, f.vocabulary.containsWord t = given.containsWord t := by
  intro given
  have hv : f.vocabulary = given := vocabulary_of_build hb
  have htokens := tokens_of_build hb
  refine ⟨hv, mem_vocabulary_of_build hb, ?_, ?_, ?_⟩
  · intro text
    rw [isIgnoreOnly, hv, htokens]
  · intro text
    rw [hasCommandWords, hv, htokens]
  · intro t
    rw [hv]

theorem build_matches_given_title_letters :
    ∃ f, build { ignoreList := ⟨["ǅ", "Aǅ", "ΟΔΟΣ, go", "İ-yi"]⟩ } = .ok f ∧
      f.config.ignoreList.phrases = ["ǅ", "aǆ", "οδος, go", "i̇-yi"] ∧
      f.vocabulary =
        .compile ⟨["ǅ", "Aǅ", "ΟΔΟΣ, go", "İ-yi"]⟩ false ∧
      f.isIgnoreOnly "ǆ; ΟΔΟΣ GO ǅ" = true ∧ f.hasCommandWords "ΟΔΟΣ" = true ∧
      f.vocabulary.containsWord "i̇yi" = true := by
  have hb : build { ignoreList := ⟨["ǅ", "Aǅ", "ΟΔΟΣ, go", "İ-yi"]⟩ } =
      .ok (ofValidated (FilterConfig.folded
        { ignoreList := ⟨["ǅ", "Aǅ", "ΟΔΟΣ, go", "İ-yi"]⟩ })) := rfl
  obtain ⟨hv, -, hignore, hcommand, hword⟩ := build_matches_given hb
  refine ⟨_, hb, ?_, hv, ?_, ?_, ?_⟩
  · decide +kernel
  · rw [hignore]
    decide +kernel
  · rw [hcommand]
    decide +kernel
  · rw [hword]
    decide +kernel

end Filter

end TurnTaking
