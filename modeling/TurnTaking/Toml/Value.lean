import TurnTaking.Number.Binary

/-!
A table in braces is complete; every other may be opened by a header once, unless dotted keys made
it.
-/

namespace TurnTaking.Toml

inductive Origin where
  | braces
  | header
  | path
  | dotted
  deriving DecidableEq, Repr

inductive Value where
  | text (s : String)
  | integer (i : Int)
  | float (x : Binary)
  | boolean (b : Bool)
  | moment
  | array (items : List Value)
  | table (origin : Origin) (entries : List (String × Value))
  | tables (opened : List (List (String × Value)))
  deriving Repr

abbrev Entries := List (String × Value)

namespace Entries

def get? (key : String) (t : Entries) : Option Value :=
  (t.find? fun e => e.1 == key).map (·.2)

def set (key : String) (value : Value) : Entries → Entries
  | [] => [(key, value)]
  | (k, v) :: rest => if k = key then (key, value) :: rest else (k, v) :: set key value rest

theorem get?_cons (key k : String) (v : Value) (t : Entries) :
    get? key ((k, v) :: t) = if k = key then some v else get? key t := by
  by_cases h : k = key <;> simp [get?, h]

@[simp] theorem get?_set_self (key : String) (value : Value) (t : Entries) :
    get? key (set key value t) = some value := by
  induction t with
  | nil => simp [set, get?_cons]
  | cons e t ih =>
    obtain ⟨k, v⟩ := e
    rw [set]
    split
    · simp [get?_cons]
    · rename_i h
      simp [get?_cons, h, ih]

theorem get?_set_of_ne {key k : String} (h : k ≠ key) (value : Value) (t : Entries) :
    get? k (set key value t) = get? k t := by
  induction t with
  | nil => simp [set, Ne.symm h, get?]
  | cons e t ih =>
    obtain ⟨k', v⟩ := e
    rw [set]
    split
    · rename_i hk
      simp [get?_cons, hk, Ne.symm h]
    · simp [get?_cons, ih]

def onLast (f : Entries → Option Entries) : List Entries → Option (List Entries)
  | [] => none
  | [t] => (f t).map fun t => [t]
  | t :: u :: us => (onLast f (u :: us)).map (t :: ·)

/-- Binds a dotted key. It may pass through tables that headers passed through and through the last
table of a double header, but the table that takes the value has to be one that dotted keys made, or
new. -/
def bindAt (value : Value) : List String → Entries → Option Entries
  | [], _ => none
  | [key], t => if (t.get? key).isSome then none else some (t.set key value)
  | key :: k :: ks, t =>
    match t.get? key with
    | none => (bindAt value (k :: ks) []).map fun inner => t.set key (.table .dotted inner)
    | some (.table origin inner) =>
      if origin = .dotted ∨ (origin = .path ∧ ks ≠ []) then
        (bindAt value (k :: ks) inner).map fun inner => t.set key (.table origin inner)
      else none
    | some (.tables opened) =>
      if ks = [] then none
      else (onLast (bindAt value (k :: ks)) opened).map fun opened => t.set key (.tables opened)
    | some _ => none

def ofBindings (bindings : List (List String × Value)) : Option Entries :=
  bindings.foldlM (fun t b => bindAt b.2 b.1 t) []

/-- Applies `f` to the table that a header's keys lead to. Of the tables of a double header the last
one is meant, and tables that are missing are made. -/
def within (f : Entries → Option Entries) : List String → Entries → Option Entries
  | [], t => f t
  | key :: ks, t =>
    match t.get? key with
    | none => (within f ks []).map fun inner => t.set key (.table .path inner)
    | some (.table .braces _) => none
    | some (.table origin inner) =>
      (within f ks inner).map fun inner => t.set key (.table origin inner)
    | some (.tables opened) =>
      (onLast (within f ks) opened).map fun opened => t.set key (.tables opened)
    | some _ => none

def openTable (key : String) (t : Entries) : Option Entries :=
  match t.get? key with
  | none => some (t.set key (.table .header []))
  | some (.table .path inner) =>
    some (t.filter (fun e => e.1 ≠ key) ++ [(key, .table .header inner)])
  | some _ => none

def openNext (key : String) (t : Entries) : Option Entries :=
  match t.get? key with
  | none => some (t.set key (.tables [[]]))
  | some (.tables opened) => some (t.set key (.tables (opened ++ [[]])))
  | some _ => none

end Entries

end TurnTaking.Toml
