import Mathlib.Algebra.Ring.Int.Defs
import TurnTaking.Proofs.JsonScanning

namespace TurnTaking.Json

lemma digitsValue_toDigits (n : Nat) : digitsValue (Nat.toDigits 10 n) = n :=
  Nat.ofDigitChars_toDigits (by decide) (by decide)

lemma span_digits {ds rest : List Char} (hd : ∀ d ∈ ds, d.isDigit = true)
    (hr : ∀ c ∈ rest.head?, c.isDigit = false) :
    (ds ++ rest).takeWhile Char.isDigit = ds ∧ (ds ++ rest).dropWhile Char.isDigit = rest := by
  rw [List.takeWhile_append_of_pos hd, List.dropWhile_append_of_pos hd]
  cases rest with
  | nil => simp
  | cons c rest => simp [hr c rfl]

namespace NumberToken

structure IsWhole (ds : List Char) : Prop where
  digits : ∀ d ∈ ds, d.isDigit = true
  ne_nil : ds ≠ []
  leading : ds.head? = some '0' → ds = ['0']

lemma head?_toDigits {n : Nat} (h : 0 < n) : (Nat.toDigits 10 n).head? ≠ some '0' := by
  induction n using Nat.strongRecOn with
  | ind n ih =>
    by_cases hn : n < 10
    · have hall : ∀ n < 10, 0 < n → (Nat.toDigits 10 n).head? ≠ some '0' := by decide
      exact hall n hn h
    · rw [Nat.toDigits_of_base_le (by decide) (by omega),
        List.head?_append_of_ne_nil _ Nat.toDigits_ne_nil]
      exact ih (n / 10) (by omega) (by omega)

lemma isWhole_toDigits (n : Nat) : IsWhole (Nat.toDigits 10 n) where
  digits _ hd := Nat.isDigit_of_mem_toDigits (by decide) (by decide) hd
  ne_nil := Nat.toDigits_ne_nil
  leading h := by
    rcases Nat.eq_zero_or_pos n with rfl | hpos
    · rfl
    · exact absurd h (head?_toDigits hpos)

def plain (negative : Bool) (whole : List Char) (fraction : Option (List Char)) : NumberToken :=
  ⟨negative, whole, fraction.getD [], none, fraction.isSome⟩

def pointText : Option (List Char) → List Char
  | none => []
  | some ds => '.' :: ds

lemma scanWhole_digits {ds rest : List Char} (hw : IsWhole ds)
    (hr : ∀ c ∈ rest.head?, c.isDigit = false) : scanWhole (ds ++ rest) = .ok (ds, rest) := by
  obtain ⟨hd, hne, hlead⟩ := hw
  obtain ⟨ht, hdrop⟩ := span_digits hd hr
  rw [scanWhole.eq_def]
  split
  · rename_i he
    exact absurd (List.append_eq_nil_iff.mp he).1 hne
  · rename_i cs he
    -- A leading zero is the only digit, so the text behind it is what follows the number.
    obtain rfl : ds = ['0'] := by
      apply hlead
      rw [← List.head?_append_of_ne_nil ds hne, he]
      rfl
    obtain rfl : rest = cs := List.cons.inj he |>.2
    cases rest with
    | nil => rfl
    | cons c rest => simp [hr c rfl]
  · rw [ht, hdrop]
    simp [hne]

lemma next_of_delimited {rest : List Char} (h : Delimited rest) :
    ∀ c ∈ rest.head?, c.isDigit = false ∧ c ≠ '.' ∧ c ≠ 'e' ∧ c ≠ 'E' := by
  intro c hc
  have hall : ∀ c ∈ [',', ']', '\x7d'], c.isDigit = false ∧ c ≠ '.' ∧ c ≠ 'e' ∧ c ≠ 'E' := by
    simp
  exact hall c (h c hc)

lemma scanExponent_none {rest : List Char} (h : Delimited rest) :
    scanExponent rest = .ok (none, rest) := by
  cases rest with
  | nil => rfl
  | cons c rest =>
    obtain ⟨-, -, he, hE⟩ := next_of_delimited h c rfl
    simp [scanExponent, he, hE]

lemma scanFraction_pointText {fraction : Option (List Char)} {rest : List Char}
    (hf : ∀ ds ∈ fraction, ds ≠ [] ∧ ∀ d ∈ ds, d.isDigit = true) (h : Delimited rest) :
    scanFraction (pointText fraction ++ rest) = .ok (fraction, rest) := by
  have hnext := next_of_delimited h
  cases fraction with
  | none =>
    rw [pointText, List.nil_append, scanFraction.eq_def]
    split
    · rename_i cs
      exact absurd rfl (hnext '.' rfl).2.1
    · rfl
  | some ds =>
    obtain ⟨hne, hd⟩ := hf ds rfl
    obtain ⟨ht, hdrop⟩ := span_digits hd fun c hc => (hnext c hc).1
    simp [pointText, scanFraction, ht, hdrop, hne]

lemma scan_plain (negative : Bool) {whole rest : List Char} {fraction : Option (List Char)}
    (hw : IsWhole whole) (hf : ∀ ds ∈ fraction, ds ≠ [] ∧ ∀ d ∈ ds, d.isDigit = true)
    (h : Delimited rest) :
    scan negative (whole ++ (pointText fraction ++ rest)) =
      .ok (plain negative whole fraction, rest) := by
  have hpoint : ∀ c ∈ (pointText fraction ++ rest).head?, c.isDigit = false := by
    cases fraction with
    | none => exact fun c hc => (next_of_delimited h c hc).1
    | some ds => simp [pointText]
  simp [scan, scanWhole_digits hw hpoint, scanFraction_pointText hf h, scanExponent_none h, plain,
    bind, Except.bind, pure, Except.pure]

end NumberToken

namespace Outline

lemma ne_of_isDigit {c d : Char} (hc : c.isDigit = true) (hd : d.isDigit = false) : c ≠ d := by
  rintro rfl
  rw [hc] at hd
  cases hd

lemma scan_minus (n : Nat) (cs : List Char) :
    scan (n + 1) ('-' :: cs) = ofNumber (NumberToken.scan true cs) := by
  rw [scan]
  simp [skipSpace, isSpace]

lemma scan_digit {c : Char} (hc : c.isDigit = true) (n : Nat) (cs : List Char) :
    scan (n + 1) (c :: cs) = ofNumber (NumberToken.scan false (c :: cs)) := by
  have hne {d : Char} (hd : d.isDigit = false) : c ≠ d := ne_of_isDigit hc hd
  have hspace : isSpace c = false := by
    simp [isSpace, hne (d := ' ') rfl, hne (d := '\n') rfl, hne (d := '\t') rfl,
      hne (d := '\r') rfl]
  rw [scan]
  simp [skipSpace, hspace, hc, hne (d := '"') rfl, hne (d := '[') rfl, hne (d := '\x7b') rfl,
    hne (d := 'n') rfl, hne (d := 't') rfl, hne (d := 'f') rfl, hne (d := '-') rfl]

end Outline

lemma outlined_plain {j : Json} {negative : Bool} {whole : List Char}
    {fraction : Option (List Char)} (hw : NumberToken.IsWhole whole)
    (hf : ∀ ds ∈ fraction, ds ≠ [] ∧ ∀ d ∈ ds, d.isDigit = true)
    (hj : j.write =
      (if negative then ['-'] else []) ++ (whole ++ NumberToken.pointText fraction)) :
    Outlined j (.number (.plain negative whole fraction)) := by
  intro n rest hn hr
  have hs := NumberToken.scan_plain negative hw hf hr
  obtain ⟨n, rfl⟩ : ∃ n', n = n' + 1 := by
    have hpos := List.length_pos_iff.mpr hw.ne_nil
    rw [hj] at hn
    simp only [List.length_append] at hn
    exact ⟨n - 1, by omega⟩
  rw [hj]
  cases negative with
  | true =>
    simp only [if_true, List.cons_append, List.nil_append, List.append_assoc]
    rw [Outline.scan_minus, hs]
    rfl
  | false =>
    obtain ⟨d, ds, rfl⟩ := List.exists_cons_of_ne_nil hw.ne_nil
    simp only [Bool.false_eq_true, if_false, List.cons_append, List.nil_append,
      List.append_assoc] at hs ⊢
    rw [Outline.scan_digit (hw.digits d (by simp)), hs]
    rfl

namespace NumberToken

def ofInteger (i : Int) : NumberToken :=
  plain (decide (i < 0)) (Nat.toDigits 10 i.natAbs) none

lemma decode_ofInteger {i : Int} (hl : -(2 ^ 63) ≤ i) (hh : i < 2 ^ 64) :
    (ofInteger i).decode = .ok (.integer i) := by
  have hw : wordLimit = 18446744073709551615 := rfl
  have ht : twoTo 63 = 9223372036854775808 := rfl
  simp only [decode, ofInteger, plain, digitsValue_toDigits, hw, ht]
  by_cases hi : i < 0
  · have hpos : 0 < i.natAbs ∧ i.natAbs ≤ 9223372036854775808 := by omega
    have habs : -(i.natAbs : Int) = i := by omega
    simp only [hi, hpos, habs]
    rfl
  · have hle : i.natAbs ≤ 18446744073709551615 := by omega
    have habs : (i.natAbs : Int) = i := by omega
    simp only [hi, hle, habs]
    rfl

end NumberToken

lemma outlined_integer (i : Int) : Outlined (.integer i) (.number (.ofInteger i)) := by
  apply outlined_plain (NumberToken.isWhole_toDigits i.natAbs) (by simp)
  simp only [write, writeInteger, NumberToken.pointText, List.append_nil, decide_eq_true_eq]
  split <;> rfl

end TurnTaking.Json
