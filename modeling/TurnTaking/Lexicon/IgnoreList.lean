import TurnTaking.Json.Decode
import TurnTaking.Text.Lowercase

namespace TurnTaking

structure IgnoreList where
  phrases : List String
  deriving DecidableEq, Repr

namespace IgnoreList

def builtIn : IgnoreList :=
  ⟨["yeah", "yep", "yes", "yup", "ok", "okay", "hmm", "mhm", "mm", "mmm", "uh-huh", "uh huh",
    "ah", "aha", "oh", "ooh",
    "um", "uh", "er", "erm",
    "right", "sure", "alright", "got it",
    "go on", "continue", "i see"]⟩

def empty : IgnoreList := ⟨[]⟩

def size (l : IgnoreList) : Nat := l.phrases.length

def isEmpty (l : IgnoreList) : Bool := l.phrases.isEmpty

def contains (l : IgnoreList) (phrase : String) : Bool := l.phrases.contains phrase

def extend (l : IgnoreList) (phrases : List String) : IgnoreList := ⟨l.phrases ++ phrases⟩

def foldPhrase (phrase : String) : String :=
  if phrase.toList.any Text.isUpper then Text.lowercase phrase else phrase

def foldCase (l : IgnoreList) : IgnoreList := ⟨l.phrases.map foldPhrase⟩

@[simp] theorem phrases_extend (l : IgnoreList) (ps : List String) :
    (l.extend ps).phrases = l.phrases ++ ps := rfl

@[simp] theorem phrases_foldCase (l : IgnoreList) :
    l.foldCase.phrases = l.phrases.map foldPhrase := rfl

@[simp] theorem size_foldCase (l : IgnoreList) : l.foldCase.size = l.size := by
  simp [size]

def toJson (l : IgnoreList) : Json := .ofTexts l.phrases

def decode : Json.Decoder IgnoreList := fun o =>
  (Json.decodeList Json.decodeText o).map IgnoreList.mk

end IgnoreList

end TurnTaking
