import TurnTaking.Json.Outline
import TurnTaking.Number.Numeral

/-!
Flaws of a text and mismatches of its values are met as they are written; the first is reported.
-/

namespace TurnTaking.Json

abbrev Decoder (α : Type) := Outline → Except Fault α

def isLeading (n : Nat) : Bool := decide (0xD800 ≤ n) && decide (n ≤ 0xDBFF)

def isTrailing (n : Nat) : Bool := decide (0xDC00 ≤ n) && decide (n ≤ 0xDFFF)

def joinSurrogates (n m : Nat) : Char :=
  Char.ofNat ((n - 0xD800) * 0x400 + (m - 0xDC00) + 0x10000)

namespace TextStop

def fault? : TextStop → Option Fault
  | closed => none
  | ended => some .endOfText
  | control => some .controlCharacter
  | badEscape => some .invalidEscape
  | badHex => some .invalidEscape

def faultAfterLeading : TextStop → Fault
  | ended => .endOfText
  | badHex => .invalidEscape
  | closed | control | badEscape => .unfinishedSurrogate

end TextStop

namespace TextToken

def decodePieces (stop : TextStop) : List TextPiece → Except Fault (List Char)
  | [] => match stop.fault? with
    | none => .ok []
    | some fault => .error fault
  | .char c :: ps => (decodePieces stop ps).map (c :: ·)
  | .unit n :: ps =>
    if isTrailing n then .error .loneSurrogate
    else if isLeading n then
      match ps with
      | [] => .error stop.faultAfterLeading
      | .char _ :: _ => .error .unfinishedSurrogate
      | .unit m :: ps =>
        if isTrailing m then (decodePieces stop ps).map (joinSurrogates n m :: ·)
        else .error .loneSurrogate
    else (decodePieces stop ps).map (Char.ofNat n :: ·)

def decode (t : TextToken) : Except Fault String :=
  (decodePieces t.stop t.pieces).map String.ofList

end TextToken

namespace NumberToken

def wordLimit : Nat := twoTo 64 - 1

def takeDigits (significand : Nat) : List Char → Nat × List Char
  | [] => (significand, [])
  | d :: ds =>
    let next := 10 * significand + (d.toNat - 48)
    if wordLimit < next then (significand, d :: ds) else takeDigits next ds

/-- `significand * 10 ^ exponent`, by at most one multiplication or by divisions with powers of ten
up to `10 ^ 308`, each of them rounded. -/
def scaleDouble (significand : Nat) (exponent : Int) : Except Fault Binary :=
  let f := Format.double
  let power (n : Nat) : Binary := f.ofNat (tenTo n)
  let x := f.ofNat significand
  if significand = 0 then .ok x
  else if 308 < exponent then .error .numberOutOfRange
  else if 0 ≤ exponent then
    match f.mul x (power exponent.toNat) with
    | .infinite _ => .error .numberOutOfRange
    | y => .ok y
  else
    let n := (-exponent).toNat
    if n ≤ 308 then .ok (f.div x (power n))
    else if n ≤ 616 then .ok (f.div (f.div x (power 308)) (power (n - 308)))
    else .ok .zero

def finish (significand : Nat) (exponent : Int) :
    Option (Bool × List Char) → Except Fault Binary
  | none => scaleDouble significand exponent
  | some (negative, ds) =>
    let e := digitsValue ds
    if twoTo 31 - 1 < e then
      if significand ≠ 0 && !negative then .error .numberOutOfRange else .ok .zero
    else scaleDouble significand (if negative then exponent - e else exponent + e)

def toDouble (t : NumberToken) : Except Fault Binary :=
  let (whole, dropped) := takeDigits 0 t.whole
  let (significand, ignored) := takeDigits whole t.fraction
  let exponent : Int := dropped.length - (t.fraction.length - ignored.length : Nat)
  (finish significand exponent t.exponent).map fun x => if t.negative then x.negate else x

def decode (t : NumberToken) : Except Fault Json :=
  let n := digitsValue t.whole
  let isWhole := !t.pointed && t.exponent.isNone
  if isWhole && !t.negative && decide (n ≤ wordLimit) then .ok (.integer n)
  else if isWhole && t.negative && decide (0 < n ∧ n ≤ twoTo 63) then .ok (.integer (-n))
  else t.toDouble.map (.float .double)

end NumberToken

namespace Outline

def found : Outline → Except Fault Found
  | null => .ok .null
  | boolean b => .ok (.boolean b)
  | number t => t.decode.map fun
    | .integer i => .integer i
    | .float _ x => .float x
    | _ => .null
  | text t => t.decode.map .text
  | list _ _ => .ok .list
  | object _ _ => .ok .object
  | nothing atEnd => .error (if atEnd then .endOfValue else .expectedValue)
  | brokenWord atEnd => .error (if atEnd then .endOfValue else .expectedWord)
  | brokenNumber atEnd => .error (if atEnd then .endOfValue else .invalidNumber)
  | noColon atEnd => .error (if atEnd then .endOfObject else .expectedColon)

def mismatch {α : Type} (o : Outline) (expected : String) : Except Fault α :=
  match o.found with
  | .ok found => .error (.wrongType found expected)
  | .error fault => .error fault

end Outline

def Stop.listFault? : Stop → Option Fault
  | closed | cut => none
  | closedAfterComma => some .trailingComma
  | ended => some .endOfList
  | endedAfterComma => some .endOfValue
  | junk => some .expectedListComma

def Stop.listEndFault? : Stop → Option Fault
  | closed => none
  | closedAfterComma => some .trailingComma
  | ended => some .endOfList
  | endedAfterComma | junk | cut => some .trailingText

def Stop.objectFault? : Stop → Option Fault
  | closed | cut => none
  | closedAfterComma => some .trailingComma
  | ended => some .endOfObject
  | endedAfterComma => some .endOfValue
  | junk => some .expectedObjectComma

def checked {α : Type} (fault : Option Fault) (x : α) : Except Fault α :=
  match fault with
  | none => .ok x
  | some fault => .error fault

def Stop.skippedListFault? : Stop → Option Fault
  | closedAfterComma => some .expectedValue
  | stop => stop.listFault?

def Stop.skippedObjectFault? : Stop → Option Fault
  | closedAfterComma => some .keyNotText
  | endedAfterComma => some .endOfObject
  | stop => stop.objectFault?

mutual

def skip : Outline → Except Fault Unit
  | .null => .ok ()
  | .boolean _ => .ok ()
  | .number _ => .ok ()
  | .text t => checked t.stop.fault? ()
  | .list items stop => do skipItems items; checked stop.skippedListFault? ()
  | .object members stop => do skipMembers members; checked stop.skippedObjectFault? ()
  | .nothing atEnd => .error (if atEnd then .endOfValue else .expectedValue)
  | .brokenWord atEnd => .error (if atEnd then .endOfValue else .expectedWord)
  | .brokenNumber _ => .error .invalidNumber
  | .noColon atEnd => .error (if atEnd then .endOfObject else .expectedColon)

def skipItems : List Outline → Except Fault Unit
  | [] => .ok ()
  | o :: os => do skip o; skipItems os

def skipMembers : List (Option TextToken × Outline) → Except Fault Unit
  | [] => .ok ()
  | (none, _) :: _ => .error .keyNotText
  | (some key, o) :: ms => do checked key.stop.fault? (); skip o; skipMembers ms

end

def decodeBoolean : Decoder Bool
  | .boolean b => .ok b
  | o => o.mismatch "a boolean"

def decodeText : Decoder String
  | .text t => t.decode
  | o => o.mismatch "a string"

def decodeOption {α : Type} (d : Decoder α) : Decoder (Option α)
  | .null => .ok none
  | o => (d o).map some

def decodeSingle : Decoder Binary
  | .number t => t.decode.map fun
    | .integer i => Format.single.ofInt i
    | .float _ x => Format.single.cast x
    | _ => .zero
  | o => o.mismatch "f32"

mutual

def decodeJson (depth : Nat) : Decoder Json
  | .null => .ok .null
  | .boolean b => .ok (.boolean b)
  | .number t => t.decode
  | .text t => t.decode.map .text
  | .list items stop =>
    if depth ≤ 1 then .error .tooDeep
    else do
      let items ← decodeItems (depth - 1) items
      checked stop.listFault? (.list items)
  | .object members stop =>
    if depth ≤ 1 then .error .tooDeep
    else do
      let members ← decodeMembers (depth - 1) members
      checked stop.objectFault? (.object (Members.ofList members))
  | .nothing atEnd => .error (if atEnd then .endOfValue else .expectedValue)
  | .brokenWord atEnd => .error (if atEnd then .endOfValue else .expectedWord)
  | .brokenNumber atEnd => .error (if atEnd then .endOfValue else .invalidNumber)
  | .noColon atEnd => .error (if atEnd then .endOfObject else .expectedColon)

def decodeItems (depth : Nat) : List Outline → Except Fault (List Json)
  | [] => .ok []
  | o :: os => do
    let x ← decodeJson depth o
    let xs ← decodeItems depth os
    return x :: xs

def decodeMembers (depth : Nat) :
    List (Option TextToken × Outline) → Except Fault (List (String × Json))
  | [] => .ok []
  | (none, _) :: _ => .error .keyNotText
  | (some key, o) :: ms => do
    let k ← key.decode
    let x ← decodeJson depth o
    let rest ← decodeMembers depth ms
    return (k, x) :: rest

end

def depthLimit : Nat := 128

def decodeMap (depth : Nat) : Decoder Members
  | .object members stop => do
    let members ← decodeMembers (depth - 1) members
    checked stop.objectFault? (Members.ofList members)
  | o => o.mismatch "a map"

def decodeList {α : Type} (d : Decoder α) : Decoder (List α)
  | .list items stop => do
    let xs ← items.mapM d
    checked stop.listFault? xs
  | o => o.mismatch "a sequence"

def decodeVariant {α : Type} (names : List (String × α)) : Decoder α := fun o =>
  let named (key : String) : Except Fault α :=
    match names.find? fun n => n.1 == key with
    | some (_, x) => .ok x
    | none => .error (.unknownVariant key (names.map (·.1)))
  let unit : Decoder Unit
    | .null => .ok ()
    | o => o.mismatch "unit"
  match o with
  | .text t => do named (← t.decode)
  | .object [] stop =>
    match stop with
    | .closed => .error .expectedValue
    | _ => .error .endOfObject
  | .object ((none, _) :: _) _ => .error .keyNotText
  | .object [(some key, value)] stop => do
    let x ← named (← key.decode)
    unit value
    match stop with
    | .closed => .ok x
    | .ended => .error .endOfObject
    | _ => .error .expectedValue
  | .object ((some key, value) :: _) _ => do
    let _ ← named (← key.decode)
    unit value
    .error .expectedValue
  | .null | .boolean _ | .number _ | .list _ _ => .error .expectedValue
  | .brokenWord _ | .brokenNumber _ => .error .expectedValue
  | .nothing atEnd => .error (if atEnd then .endOfValue else .expectedValue)
  | .noColon atEnd => .error (if atEnd then .endOfObject else .expectedColon)

structure Field (σ : Type) where
  name : String
  isFilled : σ → Bool
  fill : Outline → σ → Except Fault σ
  mayBeAbsent : Bool

structure Record (σ α : Type) where
  title : String
  start : σ
  fields : List (Field σ)
  finish : σ → Except Fault α

namespace Record

variable {σ α : Type}

def readMember (r : Record σ α) (s : σ) (m : Option TextToken × Outline) : Except Fault σ :=
  match m with
  | (none, _) => .error .keyNotText
  | (some key, value) => do
    let key ← key.decode
    match r.fields.find? fun f => f.name == key with
    | some f => if f.isFilled s then .error (.duplicateField key) else f.fill value s
    | none => do skip value; return s

def expectation (r : Record σ α) : String :=
  r.title ++ " with " ++ toString r.fields.length ++ " elements"

def readItems (r : Record σ α) (stop : Stop) :
    Nat → List (Field σ) → List Outline → σ → Except Fault σ
  | _, [], [], s => checked stop.listEndFault? s
  | _, [], _ :: _, _ => .error .trailingText
  | n, f :: fs, [], s => do
    checked stop.listFault? ()
    if f.mayBeAbsent then readItems r stop (n + 1) fs [] s
    else .error (.wrongLength n r.expectation)
  | n, f :: fs, o :: os, s => do
    let s ← f.fill o s
    readItems r stop (n + 1) fs os s

def decode (r : Record σ α) : Decoder α
  | .object members stop => do
    let s ← members.foldlM r.readMember r.start
    checked stop.objectFault? ()
    r.finish s
  | .list items stop => do r.finish (← r.readItems stop 0 r.fields items r.start)
  | o => o.mismatch r.title

end Record

def required {α : Type} (name : String) : Option α → Except Fault α
  | some x => .ok x
  | none => .error (.missingField name)

def readWith {α : Type} (d : Decoder α) (s : String) : Except Fault α := do
  let (o, after) := Outline.ofText s
  let x ← d o
  match after with
  | some rest => if (skipSpace rest).isEmpty then .ok x else .error .trailingText
  | none => .ok x

def read : String → Except Fault Json :=
  readWith (decodeJson depthLimit)

end TurnTaking.Json
