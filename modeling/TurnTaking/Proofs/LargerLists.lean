import TurnTaking.Proofs.IgnorePhrases

/-! Every cut of a text into phrases of a list is one into phrases of a larger list. -/

namespace TurnTaking

namespace Vocabulary

variable {v v' : Vocabulary} {ts : List Token}

lemma Segmented.mono (hv : ∀ p ∈ v.phrases, p ∈ v'.phrases) (h : v.Segmented ts) :
    v'.Segmented ts := by
  induction h with
  | nil => exact .nil
  | phrase hp _ ih => exact .phrase (hv _ hp) ih

lemma covers_mono (hv : ∀ p ∈ v.phrases, p ∈ v'.phrases) (h : v.covers ts = true) :
    v'.covers ts = true := by
  obtain ⟨hne, hs⟩ := (covers_iff ts).mp h
  exact (covers_iff ts).mpr ⟨hne, hs.mono hv⟩

end Vocabulary

namespace Filter

variable {f f' : Filter}

lemma ruling_congr (he : f'.config.enabled = f.config.enabled) {text : String}
    (ht : f'.tokens text = f.tokens text) (hi : f'.isIgnoreOnly text = f.isIgnoreOnly text)
    (answer : Option Bool) (speaking : Bool) :
    f'.ruling answer text speaking = f.ruling answer text speaking := by
  have hc : f'.hasCommandWords text = f.hasCommandWords text := by
    rw [Bool.eq_iff_iff, hasCommandWords_iff, hasCommandWords_iff, ht, hi]
  simp only [ruling, he, hi, hc]

lemma ruling_of_covers_more (he : f'.config.enabled = f.config.enabled) {text : String}
    (ht : f'.tokens text = f.tokens text)
    (hi : f.isIgnoreOnly text = true → f'.isIgnoreOnly text = true)
    (answer : Option Bool) (speaking : Bool) :
    f'.ruling answer text speaking = f.ruling answer text speaking ∨
      f.ruling answer text speaking = .commandWords ∧
        f'.ruling answer text speaking = .backchanneling := by
  cases hf : f.isIgnoreOnly text with
  | true => exact Or.inl (ruling_congr he ht (by rw [hi hf, hf]) answer speaking)
  | false =>
    cases hf' : f'.isIgnoreOnly text with
    | false => exact Or.inl (ruling_congr he ht (by rw [hf', hf]) answer speaking)
    | true =>
      have hw : f.tokens text ≠ [] := ht ▸ ((isIgnoreOnly_iff f' text).mp hf').1
      have hc := (hasCommandWords_iff f text).mpr ⟨hw, hf⟩
      cases hen : f.config.enabled with
      | false => exact Or.inl (by simp [ruling, he, hen])
      | true =>
        cases answer with
        | some filters => exact Or.inl (by simp [ruling, he, hen])
        | none =>
          cases speaking with
          | false => exact Or.inl (by simp [ruling, he, hen])
          | true => exact Or.inr (by simp [ruling, he, hen, hf, hf', hc])

section

variable {c : FilterConfig} {larger : IgnoreList} (hb : build c = .ok f)
  (hb' : build { c with ignoreList := larger } = .ok f')

include hb hb'

lemma enabled_of_builds : f'.config.enabled = f.config.enabled := by
  rw [build_ok hb, build_ok hb', ofValidated, ofValidated, FilterConfig.enabled_folded,
    FilterConfig.enabled_folded]

lemma tokens_of_builds (text : String) : f'.tokens text = f.tokens text := by
  rw [tokens_of_build hb, tokens_of_build hb']

lemma isIgnoreOnly_of_builds (hsub : ∀ p ∈ c.ignoreList.phrases, p ∈ larger.phrases)
    {text : String} (h : f.isIgnoreOnly text = true) : f'.isIgnoreOnly text = true := by
  rw [isIgnoreOnly, tokens_of_builds hb hb']
  refine Vocabulary.covers_mono (fun p hp => ?_) h
  obtain ⟨hne, phrase, hm, ht⟩ := (mem_vocabulary_of_build hb p).mp hp
  exact (mem_vocabulary_of_build hb' p).mpr ⟨hne, phrase, hsub phrase hm, ht⟩

lemma answer?_of_builds {calls calls' : Nat} {text : String} {state : Option String}
    (hpure : ∀ p, c.policy = some p → p.reply calls' text state = p.reply calls text state) :
    f'.answer? calls' text state = f.answer? calls text state := by
  rw [build_ok hb, build_ok hb', answer?, answer?, ofValidated, ofValidated,
    FilterConfig.policy_folded, FilterConfig.policy_folded]
  cases hp : c.policy with
  | none => rfl
  | some p => simp [hpure p hp]

end

theorem decide_larger_list {c : FilterConfig} {larger : IgnoreList} {f f' : Filter}
    (hb : build c = .ok f) (hb' : build { c with ignoreList := larger } = .ok f')
    (hsub : ∀ p ∈ c.ignoreList.phrases, p ∈ larger.phrases)
    (calls calls' : Nat) (text : String) (speaking : Bool) (state : Option String)
    (hpure : ∀ p, c.policy = some p → p.reply calls' text state = p.reply calls text state) :
    let d := (f.decide calls text speaking state).decision
    let d' := (f'.decide calls' text speaking state).decision
    (d' = d ∨ d.rule? = some "command_words" ∧ d'.action = .filter ∧
      d'.rule? = some "backchanneling") ∧
    (d.action = .filter → d' = d) ∧
    ((∀ p ∈ larger.phrases, p ∈ c.ignoreList.phrases) → d' = d) := by
  intro d d'
  have hd : d = _ := judge_eq f calls text speaking state
  have hd' : d' = _ := judge_eq f' calls' text speaking state
  rw [answer?_of_builds hb hb' hpure] at hd'
  have he := enabled_of_builds hb hb'
  have ht := tokens_of_builds hb hb' text
  have hi : f.isIgnoreOnly text = true → f'.isIgnoreOnly text = true :=
    isIgnoreOnly_of_builds hb hb' hsub
  have hsame : (∀ p ∈ larger.phrases, p ∈ c.ignoreList.phrases) → d' = d := by
    intro hback
    have hi' : f'.isIgnoreOnly text = f.isIgnoreOnly text :=
      Bool.eq_iff_iff.mpr ⟨isIgnoreOnly_of_builds hb' hb hback, hi⟩
    rw [hd', hd, ruling_congr he ht hi']
  rcases ruling_of_covers_more he ht hi (f.answer? calls text state) speaking with hr | ⟨hc, hr⟩
  · have hdd : d' = d := by rw [hd', hd, hr]
    exact ⟨Or.inl hdd, fun _ => hdd, hsame⟩
  · rw [hc] at hd
    rw [hr] at hd'
    refine ⟨Or.inr ⟨?_, ?_, ?_⟩, ?_, hsame⟩
    · rw [hd]
      exact Rule.rule?_decision _ text .commandWords
    · rw [hd']
      rfl
    · rw [hd']
      exact Rule.rule?_decision _ text .backchanneling
    · intro ha
      rw [hd] at ha
      cases ha

theorem decide_larger_list_longer_phrase :
    let policy : Policy := .constant (.broken (some "bug"))
    let c : FilterConfig := { ignoreList := ⟨["go", "Go on"]⟩, policy := some policy }
    let larger : IgnoreList := ⟨["on and on", "Go on", "go", "go on on", "go"]⟩
    ∃ f f', build c = .ok f ∧ build { c with ignoreList := larger } = .ok f' ∧
      (f.decide 0 "GO on on, and on" true none).decision.rule? = some "command_words" ∧
      (f'.decide 7 "GO on on, and on" true none).decision.rule? = some "backchanneling" ∧
      (f'.decide 7 "go, go on" true none).decision = (f.decide 0 "go, go on" true none).decision := by
  intro policy c larger
  have hb : build c = .ok (ofValidated c.folded) := rfl
  have hb' : build { c with ignoreList := larger } =
      .ok (ofValidated (FilterConfig.folded { c with ignoreList := larger })) := rfl
  have hsub : ∀ p ∈ c.ignoreList.phrases, p ∈ larger.phrases := by
    decide
  have hpure (text : String) : ∀ p, c.policy = some p → p.reply 7 text none = p.reply 0 text none := by
    intro p hp
    obtain rfl := Option.some.inj hp
    rfl
  refine ⟨_, _, hb, hb', ?_, ?_, ?_⟩
  · decide +kernel
  · decide +kernel
  · exact (decide_larger_list hb hb' hsub 0 7 _ true none (hpure _)).2.1 (by decide +kernel)

end Filter

end TurnTaking
