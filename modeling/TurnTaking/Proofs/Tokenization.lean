import TurnTaking.Lexicon.Vocabulary
import TurnTaking.Proofs.Letters

/-!
No character is lowered differently for what stands beyond a blank, and no word reaches across one.
-/

namespace TurnTaking

namespace Text

lemma facesCased_append_blank {b : Char} (hb : isBlank b = true) (xs ys : List Char) :
    facesCased (xs ++ b :: ys) = facesCased xs := by
  induction xs with
  | nil =>
    have hi : isCaseIgnorable b = false := isCaseIgnorable_of_blank hb
    have hc : isCased b = false := isCased_of_blank hb
    simp [facesCased, hi, hc]
  | cons x xs ih =>
    cases hx : isCaseIgnorable x with
    | false => simp [facesCased, hx]
    | true => simpa [facesCased, hx] using ih

lemma lowerAt_append_blank {b : Char} (hb : isBlank b = true) (before : List Char) (c : Char)
    (xs ys : List Char) : lowerAt before c (xs ++ b :: ys) = lowerAt before c xs := by
  rw [lowerAt, lowerAt, endsWord, endsWord, facesCased_append_blank hb]

lemma lowerAt_beyond_blank {b : Char} (hb : isBlank b = true) (before rest : List Char) (c : Char)
    (xs : List Char) : lowerAt (before ++ b :: rest) c xs = lowerAt before c xs := by
  rw [lowerAt, lowerAt, endsWord, endsWord, facesCased_append_blank hb]

lemma lowerFrom_beyond_blank {b : Char} (hb : isBlank b = true) (before rest : List Char)
    (xs : List Char) : lowerFrom (before ++ b :: rest) xs = lowerFrom before xs := by
  induction xs generalizing before with
  | nil => rfl
  | cons x xs ih =>
    rw [lowerFrom, lowerFrom, lowerAt_beyond_blank hb, ← List.cons_append, ih (x :: before)]

lemma lowerFrom_append_blank {b : Char} (hb : isBlank b = true) (before xs ys : List Char) :
    lowerFrom before (xs ++ b :: ys) = lowerFrom before xs ++ b :: lowerFrom [] ys := by
  induction xs generalizing before with
  | nil =>
    -- A blank is neither cased nor ignorable, so no sigma after it looks at what stands before it.
    have hl : lowerFrom (b :: before) ys = lowerFrom [] ys := lowerFrom_beyond_blank hb [] before ys
    simp [lowerFrom, (settled_of_blank hb).lowerAt, hl]
  | cons x xs ih =>
    rw [List.cons_append, lowerFrom, lowerFrom, lowerAt_append_blank hb, ih, List.append_assoc]

lemma settled_of_mem_lowerFrom {before xs : List Char} {c : Char} (h : c ∈ lowerFrom before xs) :
    Settled c := by
  induction xs generalizing before with
  | nil => cases h
  | cons x xs ih =>
    rw [lowerFrom, List.mem_append] at h
    rcases h with h | h
    · exact settled_of_mem_lowerAt h
    · exact ih h

lemma lowerFrom_of_settled {xs : List Char} (h : ∀ c ∈ xs, Settled c) (before : List Char) :
    lowerFrom before xs = xs := by
  induction xs generalizing before with
  | nil => rfl
  | cons x xs ih =>
    rw [List.forall_mem_cons] at h
    rw [lowerFrom, h.1.lowerAt, ih h.2]
    rfl

lemma toList_lowercase (s : String) : (lowercase s).toList = lowerFrom [] s.toList := by
  rw [lowercase, String.toList_ofList]

lemma lowercase_eq_self_iff (s : String) : lowercase s = s ↔ ∀ c ∈ s.toList, Settled c := by
  constructor
  · intro h c hc
    rw [← h, toList_lowercase] at hc
    exact settled_of_mem_lowerFrom hc
  · intro h
    rw [lowercase, lowerFrom_of_settled h, String.ofList_toList]

lemma lowercase_lowercase (s : String) : lowercase (lowercase s) = lowercase s := by
  apply (lowercase_eq_self_iff _).mpr
  intro c hc
  rw [toList_lowercase] at hc
  exact settled_of_mem_lowerFrom hc

lemma pieces_append_separator {separates : Char → Bool} {b : Char} (hb : separates b = true)
    (xs ys : List Char) :
    pieces separates (xs ++ b :: ys) = pieces separates xs ++ pieces separates ys := by
  induction xs with
  | nil => exact pieces_cons_separator hb ys
  | cons x xs ih =>
    rw [pieces, pieces, List.cons_append, List.cons.injEq] at ih
    cases hx : separates x with
    | false => simp [pieces, cut, hx, ih]
    | true => simp [pieces, cut, hx, ih]

lemma words_append_blank {b : Char} (hb : isBlank b = true) (xs ys : List Char) :
    words (xs ++ b :: ys) = words xs ++ words ys := by
  rw [words, pieces_append_separator hb, List.filter_append, words, words]

lemma flatten_pieces (separates : Char → Bool) (cs : List Char) :
    (pieces separates cs).flatten = cs.filter fun c => !separates c := by
  induction cs with
  | nil => rfl
  | cons c cs ih =>
    rw [pieces, List.flatten_cons] at ih
    cases hc : separates c with
    | false => simp [pieces, cut, hc, ih]
    | true => simp [pieces, cut, hc, ih]

lemma flatten_words (cs : List Char) : (words cs).flatten = cs.filter fun c => !isBlank c := by
  rw [words, List.flatten_filter_not_isEmpty, flatten_pieces]

lemma not_isPunctuation_of_blank {c : Char} (h : isBlank c = true) : isPunctuation c = false :=
  not_inSpans_of_apart (by decide) h

lemma toList_foldCase (caseSensitive : Bool) (s : String) :
    (foldCase caseSensitive s).toList =
      if caseSensitive then s.toList else lowerFrom [] s.toList := by
  cases caseSensitive with
  | false => exact toList_lowercase s
  | true => rfl

end Text

lemma tokensOf_append_blank {b : Char} (hb : Text.isBlank b = true) (xs ys : List Char) :
    tokensOf (xs ++ b :: ys) = tokensOf xs ++ tokensOf ys := by
  have hp : Text.isPunctuation b = false := Text.not_isPunctuation_of_blank hb
  rw [tokensOf, List.filter_append, List.filter_cons_of_pos (by simp [hp]),
    Text.words_append_blank hb, List.map_append, tokensOf, tokensOf]

def charTokens (caseSensitive : Bool) (xs : List Char) : List Token :=
  tokensOf (if caseSensitive then xs else Text.lowerFrom [] xs)

lemma tokenize_eq (caseSensitive : Bool) (s : String) :
    tokenize caseSensitive s = charTokens caseSensitive s.toList := by
  rw [tokenize, Text.toList_foldCase, charTokens]

lemma charTokens_append_blank (caseSensitive : Bool) {b : Char} (hb : Text.isBlank b = true)
    (xs ys : List Char) :
    charTokens caseSensitive (xs ++ b :: ys) =
      charTokens caseSensitive xs ++ charTokens caseSensitive ys := by
  cases caseSensitive with
  | false =>
    simp only [charTokens, Bool.false_eq_true, if_false]
    rw [Text.lowerFrom_append_blank hb, tokensOf_append_blank hb]
  | true =>
    simp only [charTokens, if_true]
    rw [tokensOf_append_blank hb]

lemma charTokens_append_blanks (caseSensitive : Bool) {bs : List Char} (hne : bs ≠ [])
    (hb : ∀ b ∈ bs, Text.isBlank b = true) (xs ys : List Char) :
    charTokens caseSensitive (xs ++ bs ++ ys) =
      charTokens caseSensitive xs ++ charTokens caseSensitive ys := by
  induction bs generalizing xs with
  | nil => exact absurd rfl hne
  | cons b bs ih =>
    rw [List.forall_mem_cons] at hb
    have he : xs ++ b :: bs ++ ys = xs ++ b :: (bs ++ ys) := by simp
    rw [he, charTokens_append_blank caseSensitive hb.1]
    cases bs with
    | nil => rfl
    | cons b' bs' =>
      have ht := ih (List.cons_ne_nil b' bs') hb.2 []
      have hn : charTokens caseSensitive [] = [] := by cases caseSensitive <;> rfl
      rw [List.nil_append, hn, List.nil_append] at ht
      rw [ht]

lemma tokenize_append_blanks (caseSensitive : Bool) {w : String} (hne : w ≠ "")
    (hw : Text.isBlankText w = true) (a b : String) :
    tokenize caseSensitive (a ++ w ++ b) = tokenize caseSensitive a ++ tokenize caseSensitive b := by
  have hb : ∀ c ∈ w.toList, Text.isBlank c = true := List.all_eq_true.mp hw
  have hn : w.toList ≠ [] := by
    intro h
    exact hne (String.toList_eq_nil_iff.mp h)
  rw [tokenize_eq, tokenize_eq, tokenize_eq, String.toList_append, String.toList_append,
    charTokens_append_blanks caseSensitive hn hb]

lemma tokenize_lowercase (s : String) : tokenize false (Text.lowercase s) = tokenize false s := by
  simp [tokenize, Text.foldCase, Text.lowercase_lowercase]

end TurnTaking
