import TurnTaking.Toml.Scalar

namespace TurnTaking.Toml

inductive Statement where
  | binding (key : List String) (value : Value)
  | header (key : List String)
  | doubleHeader (key : List String)
  deriving Repr

def unifyLineEnds : List Char → List Char
  | '\r' :: '\n' :: cs => '\n' :: unifyLineEnds cs
  | c :: cs => c :: unifyLineEnds cs
  | [] => []

def skipGap (inComment : Bool) : List Char → Option (List Char)
  | [] => some []
  | c :: cs =>
    if c = '\n' then skipGap false cs
    else if inComment then (if isPlain c then skipGap true cs else none)
    else if isSpace c then skipGap false cs
    else if c = '#' then skipGap true cs
    else some (c :: cs)

def skipLine (inComment : Bool) : List Char → Option (List Char)
  | [] => some []
  | c :: cs =>
    if c = '\n' then some cs
    else if inComment then (if isPlain c then skipLine true cs else none)
    else if isSpace c then skipLine false cs
    else if c = '#' then skipLine true cs
    else none

mutual

/-- A value, with `fuel` for each step and `depth` for each level. -/
def readValue : Nat → Nat → List Char → Option (Value × List Char)
  | 0, _, _ => none
  | fuel + 1, depth, cs =>
    match cs with
    | [] => none
    | 't' :: 'r' :: 'u' :: 'e' :: rest => some (.boolean true, rest)
    | 'f' :: 'a' :: 'l' :: 's' :: 'e' :: rest => some (.boolean false, rest)
    | '[' :: rest =>
      match depth with
      | 0 => none
      | depth + 1 => do
        let (items, rest) ← readItems fuel depth (← skipGap false rest)
        some (.array items, rest)
    | '\x7b' :: rest =>
      match depth with
      | 0 => none
      | depth + 1 => do
        let (bindings, rest) ←
          match skipSpace rest with
          | '\x7d' :: rest => some ([], rest)
          | rest => readBindings fuel depth rest
        let entries ← Entries.ofBindings bindings
        some (.table .braces entries, rest)
    | c :: rest =>
      if c = '"' || c = '\'' then
        (readText (c :: rest)).map fun r => (.text (String.ofList r.1), r.2)
      else readScalar (c :: rest)

def readItems : Nat → Nat → List Char → Option (List Value × List Char)
  | 0, _, _ => none
  | fuel + 1, depth, cs =>
    match cs with
    | ']' :: rest => some ([], rest)
    | cs => do
      let (item, rest) ← readValue fuel depth cs
      match ← skipGap false rest with
      | ',' :: rest =>
        let (items, rest) ← readItems fuel depth (← skipGap false rest)
        some (item :: items, rest)
      | ']' :: rest => some ([item], rest)
      | _ => none

def readBindings : Nat → Nat → List Char → Option ((List (List String × Value)) × List Char)
  | 0, _, _ => none
  | fuel + 1, depth, cs => do
    let (key, rest) ← readKey cs
    let (value, rest) ← readValue fuel depth (skipSpace (← skipChar '=' rest))
    match skipSpace rest with
    | ',' :: rest =>
      let (bindings, rest) ← readBindings fuel depth rest
      some ((key, value) :: bindings, rest)
    | '\x7d' :: rest => some ([(key, value)], rest)
    | _ => none

end

def readStatement (fuel : Nat) : List Char → Option (Statement × List Char)
  | '[' :: '[' :: cs => do
    let (key, rest) ← readKey cs
    let rest ← skipChar ']' rest
    some (.doubleHeader key, ← skipChar ']' rest)
  | '[' :: cs => do
    let (key, rest) ← readKey cs
    some (.header key, ← skipChar ']' rest)
  | cs => do
    let (key, rest) ← readKey cs
    let (value, rest) ← readValue fuel mostDepth (skipSpace (← skipChar '=' rest))
    some (.binding key value, rest)

def readStatements (fuel : Nat) : Nat → List Char → Option (List Statement)
  | 0, _ => none
  | n + 1, cs => do
    match ← skipGap false cs with
    | [] => some []
    | cs =>
      let (statement, rest) ← readStatement fuel cs
      let statements ← readStatements fuel n (← skipLine false rest)
      some (statement :: statements)

structure Draft where
  entries : Entries := []
  header : List String := []

def Draft.add (d : Draft) : Statement → Option Draft
  | .binding key value =>
    (d.entries.within (Entries.bindAt value key) d.header).map fun t => { d with entries := t }
  | .header key => opened key Entries.openTable
  | .doubleHeader key => opened key Entries.openNext
where
  opened (key : List String) (f : String → Entries → Option Entries) : Option Draft :=
    match key.getLast? with
    | some last => (d.entries.within (f last) key.dropLast).map fun t => ⟨t, key⟩
    | none => none

def ofStatements (statements : List Statement) : Option Entries :=
  (statements.foldlM Draft.add {}).map Draft.entries

def byteOrderMark : Char := '\ufeff'

def dropMark : List Char → List Char
  | c :: cs => if c = byteOrderMark then cs else c :: cs
  | [] => []

def read? (s : String) : Option Entries :=
  let cs := dropMark (unifyLineEnds s.toList)
  (readStatements (2 * cs.length + 2) (cs.length + 1) cs).bind ofStatements

end TurnTaking.Toml
