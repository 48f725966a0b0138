import Mathlib.Tactic.Common
import TurnTaking.Lexicon.Vocabulary

/-!
The search looks at phrases of bounded length only, and still finds a cut whenever there is one.
-/

namespace TurnTaking

namespace Vocabulary

variable {v : Vocabulary}

lemma segmented_cons (t : Token) (ts : List Token) :
    v.Segmented (t :: ts) ↔
      ∃ n ≤ ts.length, (t :: ts).take (n + 1) ∈ v.phrases ∧ v.Segmented (ts.drop n) := by
  constructor
  · intro h
    generalize hu : t :: ts = us at h
    induction h with
    | nil => cases hu
    | @phrase p rest hp hr ih =>
      cases p with
      | nil => exact ih hu
      | cons t' p' =>
        rw [List.cons_append, List.cons.injEq] at hu
        obtain ⟨rfl, rfl⟩ := hu
        refine ⟨p'.length, ?_, ?_, ?_⟩
        · simp
        · simpa using hp
        · simpa using hr
  · rintro ⟨n, -, hp, hr⟩
    have hc : (t :: ts).take (n + 1) ++ ts.drop n = t :: ts := by
      rw [← List.drop_succ_cons (a := t), List.take_append_drop]
    rw [← hc]
    exact Segmented.phrase hp hr

lemma le_foldl_max (ps : List (List Token)) (k : Nat) :
    k ≤ ps.foldl (fun n p => max n p.length) k ∧
      ∀ p ∈ ps, p.length ≤ ps.foldl (fun n p => max n p.length) k := by
  induction ps generalizing k with
  | nil => simp
  | cons q ps ih =>
    obtain ⟨hk, hm⟩ := ih (max k q.length)
    rw [List.foldl_cons, List.forall_mem_cons]
    refine ⟨?_, ?_, hm⟩
    · omega
    · omega

lemma le_longest {p : List Token} (h : p ∈ v.phrases) : p.length ≤ v.longest :=
  (le_foldl_max v.phrases 0).2 p h

lemma startsPhrase_iff (t : Token) (ts : List Token) (reached : List Bool) :
    v.startsPhrase (min v.longest (ts.length + 1)) (t :: ts) reached = true ↔
      ∃ n ≤ ts.length, (t :: ts).take (n + 1) ∈ v.phrases ∧ reached.getD n false = true := by
  simp only [startsPhrase, List.any_eq_true, List.mem_range, Bool.and_eq_true,
    List.contains_iff_mem]
  constructor
  · rintro ⟨n, hn, hr, hp⟩
    exact ⟨n, by omega, hp, hr⟩
  · rintro ⟨n, hn, hp, hr⟩
    have hl := le_longest hp
    rw [List.length_take, List.length_cons] at hl
    exact ⟨n, by omega, hr, hp⟩

lemma getD_reachable (ts : List Token) (n : Nat) :
    (v.reachable ts).getD n false = true ↔ n ≤ ts.length ∧ v.Segmented (ts.drop n) := by
  -- All suffixes at once: a phrase may end anywhere, so the answer here needs every later one.
  induction ts generalizing n with
  | nil =>
    cases n with
    | zero => simp [reachable, Segmented.nil]
    | succ n => simp [reachable]
  | cons t ts ih =>
    cases n with
    | zero =>
      rw [reachable, List.getD_cons_zero, startsPhrase_iff, List.drop_zero, segmented_cons]
      constructor
      · rintro ⟨n, hn, hp, hr⟩
        exact ⟨Nat.zero_le _, n, hn, hp, ((ih n).mp hr).2⟩
      · rintro ⟨-, n, hn, hp, hr⟩
        exact ⟨n, hn, hp, (ih n).mpr ⟨hn, hr⟩⟩
    | succ n =>
      rw [reachable, List.getD_cons_succ, ih, List.length_cons, List.drop_succ_cons,
        Nat.succ_le_succ_iff]

lemma covers_iff (ts : List Token) : v.covers ts = true ↔ ts ≠ [] ∧ v.Segmented ts := by
  have hr := getD_reachable (v := v) ts 0
  rw [List.drop_zero] at hr
  have hh : (v.reachable ts).headD false = (v.reachable ts).getD 0 false := by
    cases v.reachable ts <;> rfl
  rw [covers, hh, Bool.and_eq_true, hr]
  simp

lemma segmented_singleton (t : Token) : v.Segmented [t] ↔ [t] ∈ v.phrases := by
  rw [segmented_cons]
  constructor
  · rintro ⟨n, hn, hp, -⟩
    obtain rfl := Nat.le_zero.mp hn
    exact hp
  · intro hp
    exact ⟨0, Nat.le_refl 0, hp, .nil⟩

lemma containsWord_eq_covers (v : Vocabulary) (t : Token) : v.containsWord t = v.covers [t] := by
  rw [Bool.eq_iff_iff, containsWord, List.contains_iff_mem, covers_iff, segmented_singleton]
  exact ⟨fun h => ⟨List.cons_ne_nil t [], h⟩, And.right⟩

lemma segmented_iff (ts : List Token) :
    v.Segmented ts ↔ ∃ ps : List (List Token), (∀ p ∈ ps, p ∈ v.phrases) ∧ ps.flatten = ts := by
  constructor
  · intro h
    induction h with
    | nil => exact ⟨[], by simp, rfl⟩
    | @phrase p rest hp _ ih =>
      obtain ⟨ps, hps, rfl⟩ := ih
      exact ⟨p :: ps, List.forall_mem_cons.mpr ⟨hp, hps⟩, List.flatten_cons⟩
  · rintro ⟨ps, hps, rfl⟩
    induction ps with
    | nil => exact .nil
    | cons p ps ih =>
      rw [List.forall_mem_cons] at hps
      rw [List.flatten_cons]
      exact .phrase hps.1 (ih hps.2)

end Vocabulary

end TurnTaking
