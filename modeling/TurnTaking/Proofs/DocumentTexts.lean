import Mathlib.Tactic.Common
import TurnTaking.Toml.Document

/-! How tables grow depends on the keys and on the kinds of values, never on what a text says. -/

namespace TurnTaking.Toml

mutual

def Value.mapTexts (f : String → String) : Value → Value
  | .text s => .text (f s)
  | .integer i => .integer i
  | .float x => .float x
  | .boolean b => .boolean b
  | .moment => .moment
  | .array items => .array (mapItems f items)
  | .table origin entries => .table origin (mapEntries f entries)
  | .tables opened => .tables (mapOpened f opened)

def mapItems (f : String → String) : List Value → List Value
  | [] => []
  | v :: vs => v.mapTexts f :: mapItems f vs

def mapEntries (f : String → String) : List (String × Value) → List (String × Value)
  | [] => []
  | (key, v) :: t => (key, v.mapTexts f) :: mapEntries f t

def mapOpened (f : String → String) : List (List (String × Value)) → List (List (String × Value))
  | [] => []
  | t :: ts => mapEntries f t :: mapOpened f ts

end

variable {f g : String → String}

lemma mapItems_eq (f : String → String) (vs : List Value) :
    mapItems f vs = vs.map (Value.mapTexts f) := by
  induction vs with
  | nil => rfl
  | cons v vs ih => rw [mapItems, ih, List.map_cons]

lemma mapEntries_eq (f : String → String) (t : Entries) :
    mapEntries f t = t.map fun e => (e.1, e.2.mapTexts f) := by
  induction t with
  | nil => rfl
  | cons e t ih => rw [mapEntries, ih, List.map_cons]

lemma mapOpened_eq (f : String → String) (ts : List Entries) :
    mapOpened f ts = ts.map (mapEntries f) := by
  induction ts with
  | nil => rfl
  | cons t ts ih => rw [mapOpened, ih, List.map_cons]

mutual

lemma Value.mapTexts_inverse (h : ∀ s, g (f s) = s) : ∀ v : Value, (v.mapTexts f).mapTexts g = v
  | .text s => by rw [Value.mapTexts, Value.mapTexts, h]
  | .integer _ | .float _ | .boolean _ | .moment => rfl
  | .array items => by rw [Value.mapTexts, Value.mapTexts, mapItems_inverse h items]
  | .table _ entries => by rw [Value.mapTexts, Value.mapTexts, mapEntries_inverse h entries]
  | .tables opened => by rw [Value.mapTexts, Value.mapTexts, mapOpened_inverse h opened]

lemma mapItems_inverse (h : ∀ s, g (f s) = s) : ∀ vs : List Value, mapItems g (mapItems f vs) = vs
  | [] => rfl
  | v :: vs => by rw [mapItems, mapItems, Value.mapTexts_inverse h v, mapItems_inverse h vs]

lemma mapEntries_inverse (h : ∀ s, g (f s) = s) :
    ∀ t : List (String × Value), mapEntries g (mapEntries f t) = t
  | [] => rfl
  | (key, v) :: t => by
    rw [mapEntries, mapEntries, Value.mapTexts_inverse h v, mapEntries_inverse h t]

lemma mapOpened_inverse (h : ∀ s, g (f s) = s) :
    ∀ ts : List (List (String × Value)), mapOpened g (mapOpened f ts) = ts
  | [] => rfl
  | t :: ts => by rw [mapOpened, mapOpened, mapEntries_inverse h t, mapOpened_inverse h ts]

end

namespace Entries

lemma get?_mapEntries (f : String → String) (key : String) (t : Entries) :
    get? key (mapEntries f t) = (get? key t).map (Value.mapTexts f) := by
  induction t with
  | nil => rfl
  | cons e t ih =>
    obtain ⟨k, v⟩ := e
    rw [mapEntries, get?_cons, get?_cons, ih]
    split <;> rfl

lemma set_mapEntries (f : String → String) (key : String) (v : Value) (t : Entries) :
    set key (v.mapTexts f) (mapEntries f t) = mapEntries f (set key v t) := by
  induction t with
  | nil => rfl
  | cons e t ih =>
    obtain ⟨k, u⟩ := e
    rw [mapEntries, set, set]
    split
    · rfl
    · rw [ih, mapEntries]

def Natural (f : String → String) (step step' : Entries → Option Entries) : Prop :=
  ∀ t, step' (mapEntries f t) = (step t).map (mapEntries f)

variable {step step' : Entries → Option Entries}

lemma onLast_mapOpened (h : Natural f step step') (ts : List Entries) :
    onLast step' (mapOpened f ts) = (onLast step ts).map (mapOpened f) := by
  induction ts with
  | nil => rfl
  | cons t ts ih =>
    cases ts with
    | nil =>
      simp only [mapOpened, onLast, h t]
      cases step t <;> rfl
    | cons u us =>
      simp only [mapOpened, onLast] at ih ⊢
      rw [ih]
      cases onLast step (u :: us) <;> rfl

lemma set_within {α : Type} {into : α → α} (wrap : α → Value)
    (h : ∀ a, wrap (into a) = (wrap a).mapTexts f) (key : String) (t : Entries) (x : Option α) :
    ((x.map into).map fun a => set key (wrap a) (mapEntries f t)) =
      (x.map fun a => set key (wrap a) t).map (mapEntries f) := by
  cases x with
  | none => rfl
  | some a => rw [Option.map_some, Option.map_some, h, set_mapEntries]; rfl

lemma natural_bindAt (f : String → String) (v : Value) (key : List String) :
    Natural f (bindAt v key) (bindAt (v.mapTexts f) key) := by
  induction key with
  | nil => exact fun t => rfl
  | cons key ks ih =>
    intro t
    cases ks with
    | nil =>
      rw [bindAt, bindAt, get?_mapEntries, Option.isSome_map, set_mapEntries]
      split <;> rfl
    | cons k ks =>
      rw [bindAt, bindAt, get?_mapEntries]
      cases get? key t with
      | none =>
        have hnew : bindAt (v.mapTexts f) (k :: ks) [] = (bindAt v (k :: ks) []).map _ := ih []
        simp only [Option.map_none, hnew]
        exact set_within (.table .dotted) (fun _ => by rfl) key t _
      | some x =>
        cases x with
        | table origin inner =>
          simp only [Option.map_some, Value.mapTexts, ih inner]
          split
          · exact set_within (.table origin) (fun _ => by rfl) key t _
          · rfl
        | tables opened =>
          simp only [Option.map_some, Value.mapTexts, onLast_mapOpened ih]
          split
          · rfl
          · exact set_within .tables (fun _ => by rfl) key t _
        | _ => rfl

lemma natural_within (h : Natural f step step') (header : List String) :
    Natural f (within step header) (within step' header) := by
  induction header with
  | nil => exact h
  | cons key ks ih =>
    intro t
    rw [within, within, get?_mapEntries]
    cases get? key t with
    | none =>
      have hnew : within step' ks [] = (within step ks []).map _ := ih []
      simp only [Option.map_none, hnew]
      exact set_within (.table .path) (fun _ => by rfl) key t _
    | some x =>
      cases x with
      | table origin inner =>
        cases origin with
        | braces => rfl
        | header | path | dotted =>
          simp only [Option.map_some, Value.mapTexts, ih inner]
          exact set_within (.table _) (fun _ => by rfl) key t _
      | tables opened =>
        simp only [Option.map_some, Value.mapTexts, onLast_mapOpened ih]
        exact set_within .tables (fun _ => by rfl) key t _
      | _ => rfl

lemma filter_append_mapEntries (f : String → String) (key : String) (v : Value) (t : Entries) :
    (mapEntries f t).filter (fun e => e.1 ≠ key) ++ [(key, v.mapTexts f)] =
      mapEntries f (t.filter (fun e => e.1 ≠ key) ++ [(key, v)]) := by
  rw [mapEntries_eq, mapEntries_eq, List.filter_map, List.map_append]
  rfl

lemma natural_openTable (f : String → String) (key : String) :
    Natural f (openTable key) (openTable key) := by
  intro t
  rw [openTable, openTable, get?_mapEntries]
  cases get? key t with
  | none => exact congrArg some (set_mapEntries f key (.table .header []) t)
  | some x =>
    cases x with
    | table origin inner =>
      cases origin with
      | path => exact congrArg some (filter_append_mapEntries f key (.table .header inner) t)
      | _ => rfl
    | _ => rfl

lemma natural_openNext (f : String → String) (key : String) :
    Natural f (openNext key) (openNext key) := by
  intro t
  rw [openNext, openNext, get?_mapEntries]
  cases get? key t with
  | none => exact congrArg some (set_mapEntries f key (.tables [[]]) t)
  | some x =>
    cases x with
    | tables opened =>
      have hopened : mapOpened f opened ++ [[]] = mapOpened f (opened ++ [[]]) := by
        rw [mapOpened_eq, mapOpened_eq, List.map_append]
        rfl
      simp only [Option.map_some, Value.mapTexts, hopened]
      exact congrArg some (set_mapEntries f key (.tables (opened ++ [[]])) t)
    | _ => rfl

lemma ofBindings_mapTexts (f : String → String) (bindings : List (List String × Value)) :
    ofBindings (bindings.map fun b => (b.1, b.2.mapTexts f)) =
      (ofBindings bindings).map (mapEntries f) := by
  have hfold : ∀ t : Entries,
      (bindings.map fun b => (b.1, b.2.mapTexts f)).foldlM (fun t b => bindAt b.2 b.1 t)
          (mapEntries f t) =
        (bindings.foldlM (fun t b => bindAt b.2 b.1 t) t).map (mapEntries f) := by
    induction bindings with
    | nil => exact fun t => rfl
    | cons b bindings ih =>
      intro t
      rw [List.map_cons, List.foldlM_cons, List.foldlM_cons, natural_bindAt f b.2 b.1 t]
      cases bindAt b.2 b.1 t with
      | none => rfl
      | some t => exact ih t
  exact hfold []

end Entries

namespace Statement

def mapTexts (f : String → String) : Statement → Statement
  | binding key value => binding key (value.mapTexts f)
  | header key => header key
  | doubleHeader key => doubleHeader key

lemma mapTexts_inverse (h : ∀ s, g (f s) = s) (s : Statement) :
    (s.mapTexts f).mapTexts g = s := by
  cases s with
  | binding key value => rw [mapTexts, mapTexts, Value.mapTexts_inverse h]
  | header | doubleHeader => rfl

end Statement

def Draft.mapTexts (f : String → String) (d : Draft) : Draft :=
  ⟨mapEntries f d.entries, d.header⟩

lemma Draft.opened_mapTexts {step : String → Entries → Option Entries}
    (h : ∀ key, Entries.Natural f (step key) (step key)) (d : Draft) (key : List String) :
    add.opened (d.mapTexts f) key step = (add.opened d key step).map (mapTexts f) := by
  rw [add.opened, add.opened]
  cases key.getLast? with
  | none => rfl
  | some last =>
    simp only [mapTexts, Entries.natural_within (h last) key.dropLast d.entries]
    cases d.entries.within (step last) key.dropLast <;> rfl

lemma Draft.add_mapTexts (f : String → String) (d : Draft) (s : Statement) :
    (d.mapTexts f).add (s.mapTexts f) = (d.add s).map (mapTexts f) := by
  cases s with
  | binding key value =>
    have h := Entries.natural_within (Entries.natural_bindAt f value key) d.header d.entries
    simp only [Statement.mapTexts, add, mapTexts, h]
    cases d.entries.within (Entries.bindAt value key) d.header <;> rfl
  | header key => exact opened_mapTexts (Entries.natural_openTable f) d key
  | doubleHeader key => exact opened_mapTexts (Entries.natural_openNext f) d key

lemma ofStatements_mapTexts (f : String → String) (statements : List Statement) :
    ofStatements (statements.map (Statement.mapTexts f)) =
      (ofStatements statements).map (mapEntries f) := by
  have hfold : ∀ d : Draft, (statements.map (Statement.mapTexts f)).foldlM Draft.add
      (d.mapTexts f) = (statements.foldlM Draft.add d).map (Draft.mapTexts f) := by
    induction statements with
    | nil => exact fun d => rfl
    | cons s statements ih =>
      intro d
      rw [List.map_cons, List.foldlM_cons, List.foldlM_cons, Draft.add_mapTexts]
      cases d.add s with
      | none => rfl
      | some d => exact ih d
  have hempty : (statements.map (Statement.mapTexts f)).foldlM Draft.add {} =
      (statements.foldlM Draft.add {}).map (Draft.mapTexts f) := hfold {}
  rw [ofStatements, ofStatements, hempty]
  cases statements.foldlM Draft.add {} <;> rfl

end TurnTaking.Toml
