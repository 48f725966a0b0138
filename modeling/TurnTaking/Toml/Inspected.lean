import TurnTaking.Toml.Document

/-! In an inspection a table whose first key is `dateKey` stands for the date that is its value in
quotes, and has no keys at all. -/

namespace TurnTaking.Toml

/-- The key under which a table carries a date. -/
def dateKey : String := "$__toml_private_datetime"

def isQuotedMoment (s : String) : Bool :=
  (readMoment s.toList).any fun r => r.2.isEmpty

mutual

def Value.isInspectable : Value → Bool
  | .array items => allInspectable items
  | .table _ entries => entriesInspectable entries
  | .tables opened => tablesInspectable opened
  | .text _ | .integer _ | .float _ | .boolean _ | .moment => true

def allInspectable : List Value → Bool
  | [] => true
  | v :: vs => v.isInspectable && allInspectable vs

def entriesInspectable : List (String × Value) → Bool
  | [] => true
  | (key, v) :: rest =>
    if key = dateKey then carriesDate v else v.isInspectable && valuesInspectable rest

def valuesInspectable : List (String × Value) → Bool
  | [] => true
  | (_, v) :: rest => v.isInspectable && valuesInspectable rest

def tablesInspectable : List (List (String × Value)) → Bool
  | [] => true
  | t :: ts => entriesInspectable t && tablesInspectable ts

def carriesDate : Value → Bool
  | .text s => isQuotedMoment s
  | _ => false

end

namespace Entries

def inspected : Entries → Entries
  | [] => []
  | (key, v) :: rest => if key = dateKey then [] else (key, v) :: rest

end Entries

def inspect? (s : String) : Option Entries :=
  (read? s).filter entriesInspectable

end TurnTaking.Toml
