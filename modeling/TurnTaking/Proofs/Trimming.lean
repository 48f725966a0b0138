import Mathlib.Data.List.DropRight
import TurnTaking.Text.Blank

namespace TurnTaking.Text

def IsTrimmed (s : String) : Prop :=
  (∀ c ∈ s.toList.head?, isBlank c = false) ∧ ∀ c ∈ s.toList.getLast?, isBlank c = false

lemma toList_trim (s : String) :
    (trim s).toList = (s.toList.dropWhile isBlank).rdropWhile isBlank := by
  rw [trim, String.toList_ofList]
  rfl

lemma dropWhile_of_head? {cs : List Char} (h : ∀ c ∈ cs.head?, isBlank c = false) :
    cs.dropWhile isBlank = cs := by
  cases cs with
  | nil => rfl
  | cons c cs => exact List.dropWhile_cons_of_neg (by simp [h c rfl])

lemma rdropWhile_of_getLast? {cs : List Char} (h : ∀ c ∈ cs.getLast?, isBlank c = false) :
    cs.rdropWhile isBlank = cs := by
  rw [List.rdropWhile, dropWhile_of_head?, List.reverse_reverse]
  rwa [List.head?_reverse]

lemma trim_of_isTrimmed {s : String} (h : IsTrimmed s) : trim s = s := by
  rw [← String.toList_inj, toList_trim, dropWhile_of_head? h.1, rdropWhile_of_getLast? h.2]

lemma isTrimmed_trim (s : String) : IsTrimmed (trim s) := by
  rw [IsTrimmed, toList_trim]
  constructor
  · intro c hc
    obtain ⟨cut, hcut⟩ := List.rdropWhile_prefix (p := isBlank) (s.toList.dropWhile isBlank)
    have hh : (s.toList.dropWhile isBlank).head? = some c := by
      rw [← hcut, List.head?_append, hc]
      rfl
    have hb := List.head?_dropWhile_not isBlank s.toList
    rw [hh] at hb
    exact hb
  · intro c hc
    obtain ⟨front, hfront⟩ := List.getLast?_eq_some_iff.mp hc
    have hb := List.rdropWhile_last_not isBlank (s.toList.dropWhile isBlank) (by simp [hfront])
    simpa [hfront] using hb

lemma isTrimmed_of_no_blank {s : String} (h : s.toList.any isBlank = false) : IsTrimmed s := by
  simp only [List.any_eq_false, Bool.not_eq_true] at h
  exact ⟨fun c hc => h c (List.mem_of_head? hc), fun c hc => h c (List.mem_of_getLast? hc)⟩

lemma mem_of_mem_trim {s : String} {c : Char} (h : c ∈ (trim s).toList) : c ∈ s.toList := by
  rw [toList_trim] at h
  obtain ⟨cut, hcut⟩ := List.rdropWhile_prefix (p := isBlank) (s.toList.dropWhile isBlank)
  exact (List.dropWhile_sublist _).mem (hcut ▸ List.mem_append_left cut h)

lemma rdropWhile_append_blank {b : List Char} (hb : ∀ c ∈ b, isBlank c = true) (cs : List Char) :
    (cs ++ b).rdropWhile isBlank = cs.rdropWhile isBlank := by
  rw [List.rdropWhile, List.reverse_append, List.dropWhile_append_of_pos]
  · rfl
  · simpa using hb

lemma trim_of_blank {cs : List Char} (h : ∀ c ∈ cs, isBlank c = true) :
    trim (String.ofList cs) = "" := by
  have hd : cs.dropWhile isBlank = [] := by simpa using h
  rw [← String.toList_inj, toList_trim, String.toList_ofList, hd]
  rfl

lemma trim_padded {a b : List Char} (ha : ∀ c ∈ a, isBlank c = true)
    (hb : ∀ c ∈ b, isBlank c = true) {s : String} (h : IsTrimmed s) (hs : s ≠ "") :
    trim (String.ofList (a ++ s.toList ++ b)) = s := by
  have hhead : ∀ c ∈ (s.toList ++ b).head?, isBlank c = false := by
    intro c hc
    apply h.1
    rwa [List.head?_append_of_ne_nil] at hc
    simpa using hs
  rw [← String.toList_inj, toList_trim, String.toList_ofList, List.append_assoc,
    List.dropWhile_append_of_pos ha, dropWhile_of_head? hhead, rdropWhile_append_blank hb,
    rdropWhile_of_getLast? h.2]

end TurnTaking.Text
