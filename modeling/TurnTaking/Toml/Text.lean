import TurnTaking.Text.Hex

/-! Line ends are single line feeds here. -/

namespace TurnTaking.Toml

def preceded (c : Char) : Option (List Char × List Char) → Option (List Char × List Char) :=
  Option.map fun r => (c :: r.1, r.2)

def isPlain (c : Char) : Bool :=
  c = '\t' || (decide (32 ≤ c.toNat) && c ≠ '\x7f')

def isSpace (c : Char) : Bool :=
  c = ' ' || c = '\t'

def skipSpace (cs : List Char) : List Char :=
  cs.dropWhile isSpace

def escaped? (c : Char) : Option Char :=
  if c = 'b' then some '\x08'
  else if c = 't' then some '\t'
  else if c = 'n' then some '\n'
  else if c = 'f' then some '\x0c'
  else if c = 'r' then some '\r'
  else if c = '"' then some '"'
  else if c = '\\' then some '\\'
  else none

def codePoint? (ds : List Char) : Option Char :=
  (Text.hexValue? ds).bind Text.scalar?

def readBasic : List Char → Option (List Char × List Char)
  | [] => none
  | c :: cs =>
    if c = '"' then some ([], cs)
    else if c = '\\' then
      match cs with
      | 'u' :: a :: b :: c :: d :: rest =>
        (codePoint? [a, b, c, d]).bind fun x => preceded x (readBasic rest)
      | 'U' :: a :: b :: c :: d :: e :: f :: g :: h :: rest =>
        (codePoint? [a, b, c, d, e, f, g, h]).bind fun x => preceded x (readBasic rest)
      | e :: rest => (escaped? e).bind fun x => preceded x (readBasic rest)
      | [] => none
    else if isPlain c then preceded c (readBasic cs)
    else none

def readLiteral : List Char → Option (List Char × List Char)
  | [] => none
  | c :: cs =>
    if c = '\'' then some ([], cs)
    else if isPlain c then preceded c (readLiteral cs)
    else none

def closing (quote : Char) : List Char → List Char × List Char
  | a :: b :: rest =>
    if a = quote then
      if b = quote then ([a, b], rest) else ([a], b :: rest)
    else ([], a :: b :: rest)
  | [a] => if a = quote then ([a], []) else ([], [a])
  | [] => ([], [])

def endsLine (cs : List Char) : Bool :=
  (skipSpace cs).head? = some '\n'

def readLongBasic (joining : Bool) : List Char → Option (List Char × List Char)
  | [] => none
  | c :: cs =>
    if joining && (isSpace c || c = '\n') then readLongBasic true cs
    else if c = '"' then
      match cs with
      | '"' :: '"' :: rest => some (closing '"' rest)
      | _ => preceded c (readLongBasic false cs)
    else if c = '\\' then
      if endsLine cs then readLongBasic true cs
      else
        match cs with
        | 'u' :: a :: b :: c :: d :: rest =>
          (codePoint? [a, b, c, d]).bind fun x => preceded x (readLongBasic false rest)
        | 'U' :: a :: b :: c :: d :: e :: f :: g :: h :: rest =>
          (codePoint? [a, b, c, d, e, f, g, h]).bind fun x => preceded x (readLongBasic false rest)
        | e :: rest => (escaped? e).bind fun x => preceded x (readLongBasic false rest)
        | [] => none
    else if isPlain c || c = '\n' then preceded c (readLongBasic false cs)
    else none

def readLongLiteral : List Char → Option (List Char × List Char)
  | [] => none
  | c :: cs =>
    if c = '\'' then
      match cs with
      | '\'' :: '\'' :: rest => some (closing '\'' rest)
      | _ => preceded c (readLongLiteral cs)
    else if isPlain c || c = '\n' then preceded c (readLongLiteral cs)
    else none

def dropLineEnd : List Char → List Char
  | '\n' :: cs => cs
  | cs => cs

def readText : List Char → Option (List Char × List Char)
  | '"' :: '"' :: '"' :: cs => readLongBasic false (dropLineEnd cs)
  | '"' :: cs => readBasic cs
  | '\'' :: '\'' :: '\'' :: cs => readLongLiteral (dropLineEnd cs)
  | '\'' :: cs => readLiteral cs
  | _ => none

def isBareKey (c : Char) : Bool :=
  c.isAlphanum || c = '-' || c = '_'

def readKeyPart : List Char → Option (List Char × List Char)
  | '"' :: cs => readBasic cs
  | '\'' :: cs => readLiteral cs
  | cs =>
    let part := cs.takeWhile isBareKey
    if part.isEmpty then none else some (part, cs.drop part.length)

def readParts : Nat → List Char → Option (List String × List Char)
  | 0, _ => none
  | n + 1, cs => do
    let (part, rest) ← readKeyPart (skipSpace cs)
    match skipSpace rest with
    | '.' :: rest =>
      let (parts, rest) ← readParts n rest
      some (String.ofList part :: parts, rest)
    | rest => some ([String.ofList part], rest)

def mostDepth : Nat := 79

def readKey (cs : List Char) : Option (List String × List Char) :=
  readParts mostDepth cs

end TurnTaking.Toml
