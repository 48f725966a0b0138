import TurnTaking.Number.Binary

/-!
An object keeps its members in the order given; a `Members` list in key order serves as a map.
-/

namespace TurnTaking

inductive Json where
  | null
  | boolean (b : Bool)
  | integer (i : Int)
  | float (format : Format) (x : Binary)
  | text (s : String)
  | list (items : List Json)
  | object (members : List (String × Json))
  deriving Repr

namespace Json

abbrev Members := List (String × Json)

namespace Members

def insert (key : String) (value : Json) : Members → Members
  | [] => [(key, value)]
  | (k, v) :: rest =>
    if key < k then (key, value) :: (k, v) :: rest
    else if key = k then (key, value) :: rest
    else (k, v) :: insert key value rest

def get? (key : String) (members : Members) : Option Json :=
  (members.find? fun m => m.1 == key).map (·.2)

@[simp] theorem get?_nil (key : String) : get? key [] = none := rfl

theorem get?_cons (key k : String) (v : Json) (ms : Members) :
    get? key ((k, v) :: ms) = if k = key then some v else get? key ms := by
  by_cases h : k = key <;> simp [get?, h]

@[simp] theorem get?_insert_self (key : String) (value : Json) (ms : Members) :
    get? key (insert key value ms) = some value := by
  induction ms with
  | nil => simp [insert, get?_cons]
  | cons m ms ih =>
    obtain ⟨k, v⟩ := m
    rw [insert]
    split
    · simp [get?_cons]
    · split
      · simp [get?_cons]
      · rename_i h
        simp [get?_cons, Ne.symm h, ih]

theorem get?_insert_of_ne {key k : String} (h : k ≠ key) (value : Json) (ms : Members) :
    get? k (insert key value ms) = get? k ms := by
  induction ms with
  | nil => simp [insert, get?_cons, Ne.symm h]
  | cons m ms ih =>
    obtain ⟨k', v⟩ := m
    rw [insert]
    split
    · simp [get?_cons, Ne.symm h]
    · split
      · rename_i hk
        simp [get?_cons, ← hk, Ne.symm h]
      · simp [get?_cons, ih]

def ofList (members : List (String × Json)) : Members :=
  members.foldl (fun acc m => insert m.1 m.2 acc) []

end Members

def asText? : Json → Option String
  | text s => some s
  | _ => none

def get? (key : String) : Json → Option Json
  | object members => Members.get? key members
  | _ => none

def ofTexts (ss : List String) : Json :=
  list (ss.map text)

def ofText? : Option String → Json
  | none => null
  | some s => text s

def ofNat (n : Nat) : Json :=
  integer n

mutual

def normal : Json → Json
  | float _ x => float .double x
  | list items => list (normalItems items)
  | object members => object (Members.ofList (normalMembers members))
  | null => null
  | boolean b => boolean b
  | integer i => integer i
  | text s => text s

def normalItems : List Json → List Json
  | [] => []
  | x :: xs => normal x :: normalItems xs

def normalMembers : List (String × Json) → List (String × Json)
  | [] => []
  | (k, x) :: ms => (k, normal x) :: normalMembers ms

end

end Json

end TurnTaking
