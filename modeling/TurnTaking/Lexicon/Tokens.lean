import TurnTaking.Text.Blank
import TurnTaking.Text.Lowercase

/-! ASCII punctuation is deleted where it stands, so it never separates words. -/

namespace TurnTaking

namespace Text

def isPunctuation (c : Char) : Bool :=
  inSpans [⟨33, 47⟩, ⟨58, 64⟩, ⟨91, 96⟩, ⟨123, 126⟩] c

def foldCase (caseSensitive : Bool) (s : String) : String :=
  if caseSensitive then s else lowercase s

end Text

abbrev Token := String

def tokensOf (cs : List Char) : List Token :=
  (Text.words (cs.filter fun c => !Text.isPunctuation c)).map String.ofList

def tokenize (caseSensitive : Bool) (s : String) : List Token :=
  tokensOf (Text.foldCase caseSensitive s).toList

end TurnTaking
