import TurnTaking.Filter.Policy
import TurnTaking.Lexicon.IgnoreList
import TurnTaking.Number.Written
import TurnTaking.Text.Quoted

namespace TurnTaking

structure Duration where
  seconds : Nat
  nanoseconds : Nat
  deriving DecidableEq, Repr

inductive FilterError where
  | bufferTimeOutOfRange (value most : Binary)
  | emptyIgnoreList
  deriving DecidableEq, Repr

def FilterError.message : FilterError → String
  | bufferTimeOutOfRange value most =>
    "buffer_time must be between 0 and " ++ most.toPlain ++ " seconds (got " ++ value.toPlain ++ ")"
  | emptyIgnoreList => "ignore_list cannot be empty when filtering is enabled"

structure FilterConfig where
  enabled : Bool := true
  ignoreList : IgnoreList := .builtIn
  caseSensitive : Bool := false
  bufferTime : Binary := .half
  policy : Option Policy := none
  emitEvents : Bool := true

namespace FilterConfig

def mostBufferTime : Binary := .two

def isBufferTime (x : Binary) : Bool :=
  Binary.zero.le x && x.le mostBufferTime

def error? (c : FilterConfig) : Option FilterError :=
  if !isBufferTime c.bufferTime then some (.bufferTimeOutOfRange c.bufferTime mostBufferTime)
  else if c.enabled && c.ignoreList.isEmpty then some .emptyIgnoreList
  else none

def folded (c : FilterConfig) : FilterConfig :=
  if c.caseSensitive then c else { c with ignoreList := c.ignoreList.foldCase }

def validate (c : FilterConfig) : Except FilterError Unit × FilterConfig :=
  match c.error? with
  | some e => (.error e, c)
  | none => (.ok (), c.folded)

def validated (c : FilterConfig) : Except FilterError FilterConfig :=
  c.validate.1.map fun _ => c.validate.2

/-- The buffer time to the nearest nanosecond; a half goes to the even one. Times that are
negative, not a number or beyond 64-bit seconds count as zero. -/
def bufferDuration (c : FilterConfig) : Duration :=
  match c.bufferTime with
  | .finite negative m e =>
    if (negative && m ≠ 0) || (m ≠ 0 && decide (64 ≤ (m.log2 : Int) + e)) then ⟨0, 0⟩
    else
      let n := roundHalfEven (m * twoTo e.toNat * tenTo 9) (twoTo (-e).toNat)
      ⟨n / tenTo 9, n % tenTo 9⟩
  | _ => ⟨0, 0⟩

def inspect (c : FilterConfig) : String :=
  let flag (b : Bool) : String := if b then "true" else "false"
  let phrases := String.intercalate ", " (c.ignoreList.phrases.map Text.quoted)
  let policy := if c.policy.isSome then "Some(\"<policy>\")" else "None"
  "FilterConfig \x7b enabled: " ++ flag c.enabled ++ ", ignore_list: IgnoreList([" ++ phrases ++
    "]), case_sensitive: " ++ flag c.caseSensitive ++ ", buffer_time: " ++
    c.bufferTime.write .double .inspected ++ ", custom_policy: " ++ policy ++ ", emit_events: " ++
    flag c.emitEvents ++ " \x7d"

end FilterConfig

end TurnTaking
