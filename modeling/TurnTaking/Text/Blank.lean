import TurnTaking.Text.Span

/-! White space, and the ways text is cut. -/

namespace TurnTaking.Text

def blankSpans : List Span :=
  [⟨9, 13⟩, ⟨32, 32⟩, ⟨133, 133⟩, ⟨160, 160⟩, ⟨5760, 5760⟩, ⟨8192, 8202⟩, ⟨8232, 8233⟩,
    ⟨8239, 8239⟩, ⟨8287, 8287⟩, ⟨12288, 12288⟩]

def isBlank (c : Char) : Bool :=
  inSpans blankSpans c

def cut (separates : Char → Bool) : List Char → List Char × List (List Char)
  | [] => ([], [])
  | c :: cs =>
    let (piece, rest) := cut separates cs
    if separates c then ([], piece :: rest) else (c :: piece, rest)

def pieces (separates : Char → Bool) (cs : List Char) : List (List Char) :=
  (cut separates cs).1 :: (cut separates cs).2

@[simp] theorem pieces_nil (separates : Char → Bool) : pieces separates [] = [[]] := rfl

theorem pieces_cons_separator {separates : Char → Bool} {c : Char} (h : separates c = true)
    (cs : List Char) : pieces separates (c :: cs) = [] :: pieces separates cs := by
  simp [pieces, cut, h]

def words (cs : List Char) : List (List Char) :=
  (pieces isBlank cs).filter fun w => !w.isEmpty

@[simp] theorem words_nil : words [] = [] := rfl

theorem words_cons_blank {c : Char} (h : isBlank c = true) (cs : List Char) :
    words (c :: cs) = words cs := by
  simp [words, pieces_cons_separator h]

def trimStart (cs : List Char) : List Char :=
  cs.dropWhile isBlank

def trimEnd (cs : List Char) : List Char :=
  (trimStart cs.reverse).reverse

def trim (s : String) : String :=
  String.ofList (trimEnd (trimStart s.toList))

def isBlankText (s : String) : Bool :=
  s.toList.all isBlank

def withoutReturn (line : List Char) : List Char :=
  if line.getLast? = some '\r' then line.dropLast else line

def lines (s : String) : List String :=
  let (first, rest) := cut (· == '\n') s.toList
  let ended := (first :: rest).dropLast.map withoutReturn
  let unended := ((first :: rest).getLast?.toList).filter fun l => !l.isEmpty
  (ended ++ unended).map String.ofList

end TurnTaking.Text
