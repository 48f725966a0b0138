import TurnTaking.Lexicon.IgnoreList
import TurnTaking.Lexicon.Tokens

/-! Phrases as token sequences, each once and none empty. Beside the search for a cut of a text into
phrases (`covers`) stands the cut itself as a relation (`Segmented`). -/

namespace TurnTaking

def distinct {α : Type} [DecidableEq α] : List α → List α
  | [] => []
  | x :: xs => if x ∈ xs then distinct xs else x :: distinct xs

theorem mem_distinct {α : Type} [DecidableEq α] {x : α} {xs : List α} :
    x ∈ distinct xs ↔ x ∈ xs := by
  induction xs with
  | nil => simp [distinct]
  | cons y ys ih =>
    by_cases h : y ∈ ys
    · rw [distinct, if_pos h, ih, List.mem_cons]
      exact ⟨Or.inr, fun h' => h'.elim (fun e => e ▸ h) id⟩
    · rw [distinct, if_neg h, List.mem_cons, List.mem_cons, ih]

theorem nodup_distinct {α : Type} [DecidableEq α] (xs : List α) : (distinct xs).Nodup := by
  induction xs with
  | nil => simp [distinct]
  | cons y ys ih =>
    by_cases h : y ∈ ys
    · rwa [distinct, if_pos h]
    · rw [distinct, if_neg h, List.nodup_cons, mem_distinct]
      exact ⟨h, ih⟩

structure Vocabulary where
  phrases : List (List Token)
  deriving DecidableEq, Repr

namespace Vocabulary

def compile (l : IgnoreList) (caseSensitive : Bool) : Vocabulary :=
  ⟨distinct ((l.phrases.map (tokenize caseSensitive)).filter fun p => !p.isEmpty)⟩

theorem mem_compile {l : IgnoreList} {caseSensitive : Bool} {p : List Token} :
    p ∈ (compile l caseSensitive).phrases ↔
      p ≠ [] ∧ ∃ phrase ∈ l.phrases, tokenize caseSensitive phrase = p := by
  simp only [compile, mem_distinct, List.mem_filter, List.mem_map, Bool.not_eq_true',
    List.isEmpty_eq_false_iff]
  exact and_comm

theorem ne_nil_of_mem_compile {l : IgnoreList} {caseSensitive : Bool} {p : List Token}
    (h : p ∈ (compile l caseSensitive).phrases) : p ≠ [] :=
  (mem_compile.mp h).1

def size (v : Vocabulary) : Nat := v.phrases.length

def isEmpty (v : Vocabulary) : Bool := v.phrases.isEmpty

def containsWord (v : Vocabulary) (t : Token) : Bool := v.phrases.contains [t]

def longest (v : Vocabulary) : Nat := v.phrases.foldl (fun n p => max n p.length) 0

/-- Whether some phrase of at most `window` tokens ends a segmentation here. The list holds, for
each suffix of the tokens from this one on, whether it is segmented. -/
def startsPhrase (v : Vocabulary) (window : Nat) (ts : List Token) (reached : List Bool) : Bool :=
  (List.range window).any fun n => reached.getD n false && v.phrases.contains (ts.take (n + 1))

def reachable (v : Vocabulary) : List Token → List Bool
  | [] => [true]
  | t :: ts =>
    let reached := reachable v ts
    v.startsPhrase (min v.longest (ts.length + 1)) (t :: ts) reached :: reached

def covers (v : Vocabulary) (ts : List Token) : Bool :=
  !ts.isEmpty && (v.reachable ts).headD false

inductive Segmented (v : Vocabulary) : List Token → Prop where
  | nil : Segmented v []
  | phrase {p ts : List Token} : p ∈ v.phrases → Segmented v ts → Segmented v (p ++ ts)

end Vocabulary

end TurnTaking
