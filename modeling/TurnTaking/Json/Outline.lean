import TurnTaking.Json.Fault

/-! The values of a JSON text as far as they are well formed, and what is wrong where they are not.
Whether a flaw matters is for the reader of the outline to say. -/

namespace TurnTaking.Json

inductive TextPiece where
  | char (c : Char)
  | unit (n : Nat)
  deriving Repr

inductive TextStop where
  | closed
  | ended
  | control
  | badEscape
  | badHex
  deriving DecidableEq, Repr

structure TextToken where
  pieces : List TextPiece
  stop : TextStop
  deriving Repr

structure NumberToken where
  negative : Bool
  whole : List Char
  fraction : List Char
  exponent : Option (Bool × List Char)
  pointed : Bool
  deriving Repr

inductive Stop where
  | closed
  | closedAfterComma
  | ended
  | endedAfterComma
  | junk
  | cut
  deriving DecidableEq, Repr

inductive Outline where
  | null
  | boolean (b : Bool)
  | number (t : NumberToken)
  | text (t : TextToken)
  | list (items : List Outline) (stop : Stop)
  | object (members : List (Option TextToken × Outline)) (stop : Stop)
  | nothing (atEnd : Bool)
  | brokenWord (atEnd : Bool)
  | brokenNumber (atEnd : Bool)
  | noColon (atEnd : Bool)
  deriving Repr

/-- A part of an outline, and the text after it unless the part is not well formed. -/
abbrev Scanned (α : Type) := α × Option (List Char)

def isSpace (c : Char) : Bool :=
  c = ' ' || c = '\n' || c = '\t' || c = '\r'

def skipSpace (cs : List Char) : List Char :=
  cs.dropWhile isSpace

namespace TextToken

def empty (stop : TextStop) : TextToken := ⟨[], stop⟩

def cons (p : TextPiece) (t : TextToken) : TextToken := ⟨p :: t.pieces, t.stop⟩

def escaped? (c : Char) : Option Char :=
  if c = '"' then some '"'
  else if c = '\\' then some '\\'
  else if c = '/' then some '/'
  else if c = 'b' then some '\x08'
  else if c = 'f' then some '\x0c'
  else if c = 'n' then some '\n'
  else if c = 'r' then some '\r'
  else if c = 't' then some '\t'
  else none

def isShort (cs : List Char) : Bool :=
  (cs.take 4).foldl (fun n c => n + c.utf8Size) 0 < 4

def scan : List Char → Scanned TextToken
  | [] => (empty .ended, none)
  | c :: cs =>
    if c = '"' then (empty .closed, some cs)
    else if c = '\\' then
      match cs with
      | [] => (empty .ended, none)
      | e :: rest =>
        if e = 'u' then
          match rest with
          | a :: b :: c :: d :: rest =>
            match Text.hexValue? [a, b, c, d] with
            | some n => let (t, after) := scan rest; (cons (.unit n) t, after)
            | none => (empty .badHex, none)
          | short => (empty (if isShort short then .ended else .badHex), none)
        else
          match escaped? e with
          | some x => let (t, after) := scan rest; (cons (.char x) t, after)
          | none => (empty .badEscape, none)
    else if c.toNat < 32 then (empty .control, none)
    else let (t, after) := scan cs; (cons (.char c) t, after)

end TextToken

namespace NumberToken

/-- Scans the exponent of a number, if one is there; none stands for a flaw and tells whether the
text ends there. -/
def scanExponent (cs : List Char) : Except Bool (Option (Bool × List Char) × List Char) :=
  match cs with
  | [] => .ok (none, [])
  | c :: rest =>
    if c = 'e' || c = 'E' then
      let (negative, rest) : Bool × List Char :=
        match rest with
        | '-' :: rest => (true, rest)
        | '+' :: rest => (false, rest)
        | rest => (false, rest)
      let ds := rest.takeWhile Char.isDigit
      let after := rest.dropWhile Char.isDigit
      if ds.isEmpty then .error after.isEmpty else .ok (some (negative, ds), after)
    else .ok (none, cs)

def scanFraction (cs : List Char) : Except Bool (Option (List Char) × List Char) :=
  match cs with
  | '.' :: rest =>
    let ds := rest.takeWhile Char.isDigit
    let after := rest.dropWhile Char.isDigit
    if ds.isEmpty then .error after.isEmpty else .ok (some ds, after)
  | cs => .ok (none, cs)

def scanWhole (cs : List Char) : Except Bool (List Char × List Char) :=
  match cs with
  | [] => .error true
  | '0' :: rest =>
    match rest with
    | c :: _ => if c.isDigit then .error false else .ok (['0'], rest)
    | [] => .ok (['0'], [])
  | cs =>
    let ds := cs.takeWhile Char.isDigit
    if ds.isEmpty then .error false else .ok (ds, cs.dropWhile Char.isDigit)

def scan (negative : Bool) (cs : List Char) : Except Bool (NumberToken × List Char) := do
  let (whole, cs) ← scanWhole cs
  let (fraction, cs) ← scanFraction cs
  let (exponent, cs) ← scanExponent cs
  return (⟨negative, whole, fraction.getD [], exponent, fraction.isSome⟩, cs)

end NumberToken

namespace Outline

def ofNumber : Except Bool (NumberToken × List Char) → Scanned Outline
  | .ok (t, rest) => (number t, some rest)
  | .error atEnd => (brokenNumber atEnd, none)

def scanWord (o : Outline) : List Char → List Char → Scanned Outline
  | [], cs => (o, some cs)
  | _ :: _, [] => (brokenWord true, none)
  | w :: ws, c :: cs => if w = c then scanWord o ws cs else (brokenWord false, none)

mutual

/-- Scans a value. The number bounds the steps and is ample if it is twice the length of the text.
-/
def scan : Nat → List Char → Scanned Outline
  | 0, _ => (nothing true, none)
  | n + 1, cs =>
    match skipSpace cs with
    | [] => (nothing true, none)
    | c :: cs =>
      if c = '"' then
        let (t, after) := TextToken.scan cs
        (text t, after)
      else if c = '[' then
        match skipSpace cs with
        | [] => (list [] .ended, none)
        | c :: rest =>
          if c = ']' then (list [] .closed, some rest)
          else
            let ((items, stop), after) := scanItems n (c :: rest)
            (list items stop, after)
      else if c = '\x7b' then
        match skipSpace cs with
        | [] => (object [] .ended, none)
        | c :: rest =>
          if c = '\x7d' then (object [] .closed, some rest)
          else
            let ((members, stop), after) := scanMembers n (c :: rest)
            (object members stop, after)
      else if c = 'n' then scanWord null ['u', 'l', 'l'] cs
      else if c = 't' then scanWord (boolean true) ['r', 'u', 'e'] cs
      else if c = 'f' then scanWord (boolean false) ['a', 'l', 's', 'e'] cs
      else if c = '-' then ofNumber (NumberToken.scan true cs)
      else if c.isDigit then ofNumber (NumberToken.scan false (c :: cs))
      else (nothing false, none)

def scanItems : Nat → List Char → Scanned (List Outline × Stop)
  | 0, _ => (([], .cut), none)
  | n + 1, cs =>
    match scan n cs with
    | (item, none) => (([item], .cut), none)
    | (item, some rest) =>
      match skipSpace rest with
      | [] => (([item], .ended), none)
      | c :: rest =>
        if c = ']' then (([item], .closed), some rest)
        else if c = ',' then
          match skipSpace rest with
          | [] => (([item], .endedAfterComma), none)
          | c :: rest =>
            if c = ']' then (([item], .closedAfterComma), none)
            else
              let ((items, stop), after) := scanItems n (c :: rest)
              ((item :: items, stop), after)
        else (([item], .junk), none)

def scanMemberValue : Nat → List Char → Scanned Outline
  | 0, _ => (nothing true, none)
  | n + 1, cs =>
    match skipSpace cs with
    | [] => (noColon true, none)
    | c :: rest => if c = ':' then scan n rest else (noColon false, none)

def scanMembers : Nat → List Char → Scanned (List (Option TextToken × Outline) × Stop)
  | 0, _ => (([], .cut), none)
  | n + 1, cs =>
    match cs with
    | [] => (([], .ended), none)
    | c :: rest =>
      if c = '"' then
        match TextToken.scan rest with
        | (key, none) => (([(some key, nothing true)], .cut), none)
        | (key, some rest) =>
          match scanMemberValue n rest with
          | (value, none) => (([(some key, value)], .cut), none)
          | (value, some rest) =>
            match skipSpace rest with
            | [] => (([(some key, value)], .ended), none)
            | c :: rest =>
              if c = '\x7d' then (([(some key, value)], .closed), some rest)
              else if c = ',' then
                match skipSpace rest with
                | [] => (([(some key, value)], .endedAfterComma), none)
                | c :: rest =>
                  if c = '\x7d' then (([(some key, value)], .closedAfterComma), none)
                  else
                    let ((members, stop), after) := scanMembers n (c :: rest)
                    (((some key, value) :: members, stop), after)
              else (([(some key, value)], .junk), none)
      else
        let (found, _) := scan n cs
        (([(none, found)], .cut), none)

end

def ofText (s : String) : Scanned Outline :=
  scan (2 * s.toList.length + 2) s.toList

end Outline

end TurnTaking.Json
