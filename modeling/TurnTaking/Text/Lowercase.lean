import TurnTaking.Text.Letter

/-! A capital sigma at the end of a word becomes the final sigma. -/

namespace TurnTaking.Text

def facesCased (cs : List Char) : Bool :=
  match cs.dropWhile isCaseIgnorable with
  | [] => false
  | c :: _ => isCased c

/-- A sigma ends its word when a cased character stands before it and none after it. The text
before is given backwards. -/
def endsWord (before after : List Char) : Bool :=
  facesCased before && !facesCased after

def lowerAt (before : List Char) (c : Char) (after : List Char) : List Char :=
  if c = 'Σ' then [if endsWord before after then 'ς' else 'σ'] else lowerChar c

def lowerFrom (before : List Char) : List Char → List Char
  | [] => []
  | c :: cs => lowerAt before c cs ++ lowerFrom (c :: before) cs

def lowercase (s : String) : String :=
  String.ofList (lowerFrom [] s.toList)

def lowercaseAscii (s : String) : String :=
  String.ofList (s.toList.map Char.toLower)

@[simp] theorem lowerFrom_nil (before : List Char) : lowerFrom before [] = [] := rfl

theorem lowerFrom_eq_flatMap {cs : List Char} (h : 'Σ' ∉ cs) (before : List Char) :
    lowerFrom before cs = cs.flatMap lowerChar := by
  induction cs generalizing before with
  | nil => rfl
  | cons c cs ih =>
    rw [List.mem_cons, not_or] at h
    simp [lowerFrom, lowerAt, Ne.symm h.1, ih h.2]

theorem lowercase_eq_flatMap {s : String} (h : 'Σ' ∉ s.toList) :
    lowercase s = String.ofList (s.toList.flatMap lowerChar) := by
  rw [lowercase, lowerFrom_eq_flatMap h]

end TurnTaking.Text
