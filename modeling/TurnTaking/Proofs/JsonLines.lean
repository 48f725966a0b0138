import Mathlib.Tactic.Common
import TurnTaking.Json.Write
import TurnTaking.Text.Blank

namespace TurnTaking

namespace Text

def Printable (cs : List Char) : Prop := ∀ c ∈ cs, 32 ≤ c.toNat

instance (cs : List Char) : Decidable (Printable cs) :=
  List.decidableBAll (fun c : Char => 32 ≤ c.toNat) cs

@[simp] lemma printable_nil : Printable [] := by simp [Printable]

@[simp] lemma printable_cons {c : Char} {cs : List Char} :
    Printable (c :: cs) ↔ 32 ≤ c.toNat ∧ Printable cs := by
  simp [Printable]

@[simp] lemma printable_append {xs ys : List Char} :
    Printable (xs ++ ys) ↔ Printable xs ∧ Printable ys := by
  simp [Printable, or_imp, forall_and]

lemma Printable.mono {xs ys : List Char} (h : Printable ys) (hs : xs ⊆ ys) : Printable xs :=
  fun c hc => h c (hs hc)

lemma Printable.ite {p : Prop} [Decidable p] {xs ys : List Char} (hx : Printable xs)
    (hy : Printable ys) : Printable (if p then xs else ys) := by
  split
  · exact hx
  · exact hy

lemma printable_replicate {c : Char} (h : 32 ≤ c.toNat) (n : Nat) :
    Printable (List.replicate n c) := by
  intro d hd
  rw [List.eq_of_mem_replicate hd]
  exact h

lemma printable_toDigits (n : Nat) : Printable (Nat.toDigits 10 n) := by
  intro c hc
  have hd := Nat.isDigit_of_mem_toDigits (by decide) (by decide) hc
  simp only [Char.isDigit, Bool.and_eq_true, decide_eq_true_eq] at hd
  have hle : '0'.toNat ≤ c.toNat := hd.1
  exact Nat.le_trans (by decide) hle

end Text

open Text

namespace Layout

variable {ds : List Char}

lemma printable_writePositional (l : Layout) (h : Printable ds) (exponent : Int) :
    Printable (l.writePositional ds exponent) := by
  have hz (n : Nat) : Printable (List.replicate n '0') := printable_replicate (by decide) n
  have hfront (n : Nat) : Printable (ds.take n) := h.mono (List.take_subset n ds)
  have hback (n : Nat) : Printable (ds.drop n) := h.mono (List.drop_subset n ds)
  apply Printable.ite
  · simp [hz, h]
  · refine printable_append.mpr ⟨printable_append.mpr ⟨hfront _, hz _⟩, ?_⟩
    exact Printable.ite (Printable.ite (by decide) printable_nil) (by simp [hback])

lemma printable_writeExponential (l : Layout) (h : Printable ds) (exponent : Int) :
    Printable (l.writeExponential ds exponent) := by
  have hfront : Printable (ds.take 1) := h.mono (List.take_subset 1 ds)
  have hback : Printable ('.' :: ds.drop 1) := by
    simpa using h.mono (List.drop_subset 1 ds)
  have hsign : Printable (if exponent < 0 then ['-'] else if l.signedExponent then ['+'] else []) :=
    Printable.ite (by decide) (Printable.ite (by decide) printable_nil)
  refine printable_append.mpr ⟨printable_append.mpr ⟨printable_append.mpr ⟨hfront, ?_⟩, ?_⟩,
    printable_toDigits _⟩
  · exact Printable.ite printable_nil hback
  · simpa using hsign

lemma printable_significantDigits (n : Nat) : Printable (significantDigits n) := by
  refine (printable_toDigits n).mono ?_
  intro c hc
  rw [significantDigits, List.mem_reverse] at hc
  exact List.mem_reverse.mp ((List.dropWhile_sublist _).subset hc)

lemma printable_writeDecimal (l : Layout) (d : Decimal) : Printable (l.writeDecimal d) := by
  rw [writeDecimal]
  have hs := printable_significantDigits d.digits
  split
  · exact printable_writePositional l hs _
  · exact printable_writeExponential l hs _

end Layout

lemma Binary.printable_write (f : Format) (l : Layout) (x : Binary) :
    Printable (x.write f l).toList := by
  cases x with
  | nan => exact (by decide : Printable "NaN".toList)
  | infinite negative =>
    cases negative with
    | false => exact (by decide : Printable "inf".toList)
    | true => exact (by decide : Printable "-inf".toList)
  | finite negative m e =>
    have hm : Printable (if m = 0 then l.writePositional ['0'] 0
        else l.writeDecimal (shortest l.tie f m e)) := by
      split
      · exact Layout.printable_writePositional l (by decide) 0
      · exact Layout.printable_writeDecimal l _
    cases negative <;> simpa [write] using hm

namespace Json

lemma printable_escapedChar (c : Char) : Printable (escapedChar c) := by
  by_cases h : c.toNat < 32
  · have hall : ∀ n < 32, Printable (escapedChar (Char.ofNat n)) := by decide
    have hc := hall c.toNat h
    rwa [Char.ofNat_toNat] at hc
  · simp only [escapedChar, h, if_false]
    iterate 7 refine Printable.ite (by decide) ?_
    simpa using h

lemma printable_writeText (s : String) : Printable (writeText s) := by
  have hs : Printable (s.toList.flatMap escapedChar) := by
    intro c hc
    obtain ⟨d, -, hd⟩ := List.mem_flatMap.mp hc
    exact printable_escapedChar d c hd
  simp [writeText, hs]

lemma printable_writeInteger (i : Int) : Printable (writeInteger i) := by
  rw [writeInteger]
  split
  · simp [printable_toDigits]
  · exact printable_toDigits _

lemma printable_writeFloat (f : Format) (x : Binary) : Printable (writeFloat f x) := by
  cases x with
  | nan | infinite negative => exact (by decide : Printable "null".toList)
  | finite negative m e => exact Binary.printable_write f _ _

mutual

lemma printable_write : ∀ j : Json, Printable j.write
  | .null => by rw [write]; decide
  | .boolean b => by cases b <;> rw [write] <;> decide
  | .integer i => printable_writeInteger i
  | .float f x => printable_writeFloat f x
  | .text s => printable_writeText s
  | .list items => by simp [write, printable_writeItems items]
  | .object members => by simp [write, printable_writeMembers members]

lemma printable_writeItems : ∀ items : List Json, Printable (writeItems items)
  | [] => printable_nil
  | [x] => printable_write x
  | x :: y :: xs => by simp [writeItems, printable_write x, printable_writeItems (y :: xs)]

lemma printable_writeMembers : ∀ members : List (String × Json), Printable (writeMembers members)
  | [] => printable_nil
  | [(k, x)] => by simp [writeMembers, printable_writeText k, printable_write x]
  | (k, x) :: m :: ms => by
    simp [writeMembers, printable_writeText k, printable_write x, printable_writeMembers (m :: ms)]

end

lemma printable_toLine (j : Json) : Printable j.toLine.toList := by
  rw [toLine, String.toList_ofList]
  exact printable_write j

end Json

namespace Text

lemma pieces_eq_splitOnP (separates : Char → Bool) (cs : List Char) :
    pieces separates cs = cs.splitOnP separates := by
  induction cs with
  | nil => rfl
  | cons c cs ih =>
    rw [List.splitOnP_cons_eq_if_modifyHead, ← ih]
    cases h : separates c <;> simp [pieces, cut, h]

lemma withoutReturn_of_printable {cs : List Char} (h : Printable cs) : withoutReturn cs = cs := by
  rw [withoutReturn, if_neg]
  intro hr
  have hc := h '\r' (List.mem_of_getLast? hr)
  exact absurd hc (by decide)

lemma lines_eq (s : String) :
    lines s =
      ((pieces (· == '\n') s.toList).dropLast.map withoutReturn ++
        (pieces (· == '\n') s.toList).getLast?.toList.filter fun l => !l.isEmpty).map
          String.ofList := rfl

lemma pieces_intercalate {ss : List String} (hne : ss ≠ [])
    (h : ∀ s ∈ ss, Printable s.toList) :
    pieces (· == '\n') (String.intercalate "\n" ss).toList = ss.map String.toList := by
  rw [String.toList_intercalate, pieces_eq_splitOnP]
  apply List.splitOn_intercalate '\n'
  · intro cs hcs hn
    obtain ⟨s, hs, rfl⟩ := List.mem_map.mp hcs
    exact absurd (h s hs '\n' hn) (by decide)
  · simpa using hne

lemma lines_intercalate {ss : List String} {last : String} (h : ∀ s ∈ ss, Printable s.toList)
    (hl : Printable last.toList) (hne : last ≠ "") :
    lines (String.intercalate "\n" (ss ++ [last])) = ss ++ [last] := by
  have hall : ∀ s ∈ ss ++ [last], Printable s.toList := by
    intro s hs
    rcases List.mem_append.mp hs with hs | hs
    · exact h s hs
    · obtain rfl := List.mem_singleton.mp hs
      exact hl
  have hp : pieces (· == '\n') (String.intercalate "\n" (ss ++ [last])).toList =
      ss.map String.toList ++ [last.toList] := by
    rw [pieces_intercalate (by simp) hall, List.map_append]
    rfl
  have hr : (ss.map String.toList).map withoutReturn = ss.map String.toList := by
    rw [List.map_map]
    exact List.map_congr_left fun s hs => withoutReturn_of_printable (h s hs)
  have hb : last.toList.isEmpty = false := by
    rw [List.isEmpty_eq_false_iff]
    exact fun hn => hne (String.toList_eq_nil_iff.mp hn)
  rw [lines_eq, hp, List.dropLast_concat, List.getLast?_concat, hr]
  simp [hb, Function.comp_def]

end Text

end TurnTaking
