import Mathlib.Data.List.Forall2
import TurnTaking.Proofs.LoadedFilter
import TurnTaking.Proofs.NumberValues

namespace TurnTaking

namespace FilterConfig

def InRange (c : FilterConfig) : Prop :=
  ∃ q, c.bufferTime.value? = some q ∧ 0 ≤ q ∧ q ≤ 2

lemma isBufferTime_iff (c : FilterConfig) : isBufferTime c.bufferTime = true ↔ c.InRange :=
  Binary.between_iff Binary.value?_zero Binary.value?_two c.bufferTime

example : isBufferTime (.finite true 0 0) = true ∧ isBufferTime .nan = false := by decide

lemma error?_eq_range_iff (c : FilterConfig) :
    c.error? = some (.bufferTimeOutOfRange c.bufferTime mostBufferTime) ↔ ¬ c.InRange := by
  rw [← isBufferTime_iff, error?]
  cases isBufferTime c.bufferTime with
  | false => simp
  | true => cases c.enabled && c.ignoreList.isEmpty <;> simp

lemma error?_eq_empty_iff (c : FilterConfig) :
    c.error? = some .emptyIgnoreList ↔
      c.InRange ∧ c.enabled = true ∧ c.ignoreList.phrases = [] := by
  rw [← isBufferTime_iff, error?]
  cases isBufferTime c.bufferTime with
  | false => simp
  | true => simp [IgnoreList.isEmpty]

lemma validate_eq_ok_iff (c : FilterConfig) : c.validate.1 = .ok () ↔ c.error? = none := by
  rw [validate]
  cases c.error? <;> simp

lemma validate_eq_error_iff (c : FilterConfig) (e : FilterError) :
    c.validate.1 = .error e ↔ c.error? = some e := by
  rw [validate]
  cases c.error? <;> simp

lemma validate_of_error?_eq_some {c : FilterConfig} {e : FilterError} (h : c.error? = some e) :
    c.validate = (.error e, c) := by
  rw [validate, h]

lemma validate_of_error?_eq_none {c : FilterConfig} (h : c.error? = none) :
    c.validate = (.ok (), c.folded) := by
  rw [validate, h]

lemma folded_eq (c : FilterConfig) : c.folded = { c with ignoreList := c.folded.ignoreList } := by
  rw [folded]
  split <;> rfl

lemma folded_of_caseSensitive {c : FilterConfig} (h : c.caseSensitive = true) : c.folded = c := by
  rw [folded, if_pos h]

lemma forall₂_folded (c : FilterConfig) :
    List.Forall₂ (fun phrase new => new = phrase ∨ new = Text.lowercase phrase)
      c.ignoreList.phrases c.folded.ignoreList.phrases := by
  rw [folded]
  split
  · rw [List.forall₂_same]
    exact fun phrase _ => Or.inl rfl
  · exact c.ignoreList.forall₂_foldCase

theorem validate_exact (c : FilterConfig) :
    let after := c.validate.2
    (c.validate.1 = .ok () ↔ c.InRange ∧ (c.enabled = false ∨ c.ignoreList.phrases ≠ [])) ∧
    (c.validate.1 = .error (.bufferTimeOutOfRange c.bufferTime mostBufferTime) ↔ ¬ c.InRange) ∧
    (c.validate.1 = .error .emptyIgnoreList ↔
      c.InRange ∧ c.enabled = true ∧ c.ignoreList.phrases = []) ∧
    (∀ e, c.validate.1 = .error e → after = c) ∧
    (c.validate.1 = .ok () →
      after = { c with ignoreList := after.ignoreList } ∧
      (c.caseSensitive = true → after = c) ∧
      after.ignoreList.phrases.length = c.ignoreList.phrases.length ∧
      List.Forall₂ (fun phrase new => new = phrase ∨ new = Text.lowercase phrase)
        c.ignoreList.phrases after.ignoreList.phrases ∧
      after.validate = (.ok (), after)) := by
  intro after
  rw [validate_eq_ok_iff, validate_eq_error_iff, validate_eq_error_iff]
  refine ⟨?_, error?_eq_range_iff c, error?_eq_empty_iff c, ?_, ?_⟩
  · rw [error?_eq_none_iff, isBufferTime_iff]
    cases c.enabled <;> simp
  · intro e he
    exact congrArg Prod.snd (validate_of_error?_eq_some ((validate_eq_error_iff c e).mp he))
  · intro h
    have hafter : after = c.folded := congrArg Prod.snd (validate_of_error?_eq_none h)
    rw [hafter]
    exact ⟨folded_eq c, folded_of_caseSensitive, (forall₂_folded c).length_eq.symm,
      forall₂_folded c, validate_folded h⟩

theorem validate_exact_negative_zero :
    let c : FilterConfig :=
      { ignoreList := ⟨["ΟΔΟΣ", "ǅ", "İ 𝐀", "uh-huh"]⟩, bufferTime := .finite true 0 0 }
    let infinite : FilterConfig := { c with bufferTime := .infinite false, ignoreList := .empty }
    c.validate.1 = .ok () ∧ c.validate.2.validate = (.ok (), c.validate.2) ∧
      c.validate.2.ignoreList.phrases.length = 4 ∧
      infinite.validate.1 =
        .error (.bufferTimeOutOfRange (.infinite false) mostBufferTime) ∧
      infinite.validate.2 = infinite := by
  intro c infinite
  obtain ⟨hok, -, -, -, hafter⟩ := validate_exact c
  obtain ⟨-, hrange, -, hsame, -⟩ := validate_exact infinite
  have hc : c.validate.1 = .ok () := by
    refine hok.mpr ⟨⟨0, ?_, le_rfl, by norm_num⟩, Or.inr (by simp [c])⟩
    simp [c, Binary.value?, Binary.signed]
  have hi : infinite.validate.1 = _ := hrange.mpr (by simp [InRange, infinite])
  obtain ⟨-, -, hlength, -, hagain⟩ := hafter hc
  exact ⟨hc, hagain, hlength, hi, hsame _ hi⟩

end FilterConfig

end TurnTaking
