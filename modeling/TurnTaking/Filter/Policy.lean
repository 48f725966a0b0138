namespace TurnTaking

inductive PolicyError where
  | failed (reason : String)
  | panicked (reason : String)
  deriving DecidableEq, Repr

def PolicyError.message : PolicyError → String
  | failed reason => "custom policy failed: " ++ reason
  | panicked reason => "custom policy panicked: " ++ reason

inductive PolicyReply where
  | verdict (filters : Bool)
  | error (e : PolicyError)
  /-- It broke off, leaving a text or something that is none. -/
  | broken (payload : Option String)
  /-- It broke off, leaving something that breaks off again when it is dropped. -/
  | bursting
  deriving DecidableEq, Repr

def PolicyReply.outcome : PolicyReply → Except PolicyError Bool
  | verdict b => .ok b
  | error e => .error e
  | broken (some reason) => .error (.panicked reason)
  | broken none | bursting => .error (.panicked "non-string panic payload")

/-- The reply to each call, from the number of earlier calls, the transcript and the agent's
state. -/
structure Policy where
  reply : Nat → String → Option String → PolicyReply

def occursIn (part : List Char) : List Char → Bool
  | [] => part.isEmpty
  | c :: cs => part.isPrefixOf (c :: cs) || occursIn part cs

namespace Policy

def constant (reply : PolicyReply) : Policy :=
  ⟨fun _ _ _ => reply⟩

def containing (part : String) : Policy :=
  ⟨fun _ transcript _ => .verdict (occursIn part.toList transcript.toList)⟩

def inState (state : Option String) : Policy :=
  ⟨fun _ _ s => .verdict (s = state)⟩

def cycle (ps : List Policy) : Policy :=
  ⟨fun n transcript state =>
    match ps[n % ps.length]? with
    | some p => p.reply n transcript state
    | none => .verdict false⟩

end Policy

end TurnTaking
