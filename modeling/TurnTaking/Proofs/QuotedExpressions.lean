import Mathlib.Data.List.TakeWhile
import TurnTaking.Proofs.Expressions
import TurnTaking.Toml.Text

/-! A value with a control character makes reading fail wherever it stands. -/

namespace TurnTaking

namespace Template

def coded : Part → List Char
  | .char c => if c = '$' then ['$', '$'] else [c]
  | .expression name => Part.written (.expression name)

def ofParts (ps : List Part) : String :=
  String.ofList (ps.flatMap coded)

def ofText (s : String) : String :=
  ofParts (s.toList.map .char)

def partsFrom : Option (List Char) → List Char → List Part
  | none, '$' :: '\x7b' :: cs => partsFrom (some []) cs
  | none, '$' :: '$' :: cs => .char '$' :: partsFrom none cs
  | none, c :: cs => .char c :: partsFrom none cs
  | some name, c :: cs =>
    if c = '\x7d' then .expression (String.ofList name.reverse) :: partsFrom none cs
    else partsFrom (some (c :: name)) cs
  | _, [] => []

def parts (s : String) : List Part :=
  partsFrom none s.toList

def fill (lookup : String → Option String) (s : String) : String :=
  String.ofList ((parts s).flatMap (Part.filled lookup))

variable {lookup lookup' : String → Option String}

lemma fill_congr {s : String}
    (h : ∀ name, .expression name ∈ parts s → lookup' name = lookup name) :
    fill lookup' s = fill lookup s := by
  rw [fill, fill]
  congr 1
  apply List.flatMap_congr
  intro p hp
  cases p with
  | char c => rfl
  | expression name => rw [Part.filled, Part.filled, h name hp]

lemma partsFrom_name {before name : List Char} (h : '\x7d' ∉ name) (cs : List Char) :
    partsFrom (some before) (name ++ cs) = partsFrom (some (name.reverse ++ before)) cs := by
  induction name generalizing before with
  | nil => rfl
  | cons c name ih =>
    rw [List.mem_cons, not_or] at h
    rw [List.cons_append, partsFrom, if_neg (Ne.symm h.1), ih h.2]
    simp

lemma partsFrom_coded {p : Part} (h : ∀ name, p = .expression name → '\x7d' ∉ name.toList)
    (cs : List Char) : partsFrom none (coded p ++ cs) = p :: partsFrom none cs := by
  cases p with
  | char c =>
    by_cases hc : c = '$'
    · rw [hc]
      rfl
    · rw [coded, if_neg hc, List.singleton_append, partsFrom]
      · rintro - rfl
        exact absurd rfl hc
      · rintro - rfl
        exact absurd rfl hc
  | expression name =>
    show partsFrom (some []) (name.toList ++ ['\x7d'] ++ cs) = _
    rw [List.append_assoc, partsFrom_name (h name rfl), List.singleton_append, partsFrom,
      if_pos rfl]
    simp

def Closed (ps : List Part) : Prop := ∀ name, .expression name ∈ ps → '\x7d' ∉ name.toList

lemma parts_ofParts {ps : List Part} (h : Closed ps) : parts (ofParts ps) = ps := by
  rw [parts, ofParts, String.toList_ofList]
  induction ps with
  | nil => rfl
  | cons p ps ih =>
    have hp : ∀ name, p = .expression name → '\x7d' ∉ name.toList :=
      fun name hn => h name (hn ▸ List.mem_cons_self)
    have hps : Closed ps := fun name hn => h name (List.mem_cons_of_mem p hn)
    rw [List.flatMap_cons, partsFrom_coded hp, ih hps]

lemma fill_ofParts {ps : List Part} (h : Closed ps) :
    fill lookup (ofParts ps) = String.ofList (ps.flatMap (Part.filled lookup)) := by
  rw [fill, parts_ofParts h]

lemma closed_chars (cs : List Char) : Closed (cs.map .char) := by
  simp [Closed]

lemma filled_chars (cs : List Char) : (cs.map Part.char).flatMap (Part.filled lookup) = cs := by
  induction cs with
  | nil => rfl
  | cons c cs ih => rw [List.map_cons, List.flatMap_cons, ih]; rfl

lemma fill_ofText (s : String) : fill lookup (ofText s) = s := by
  rw [ofText, fill_ofParts (closed_chars _), filled_chars, String.ofList_toList]

end Template

open Toml

def Part.value (lookup : String → Option String) : Part → List Char
  | char _ => []
  | expression name => ((lookup name).getD "").toList

def Tame (lookup : String → Option String) (ps : List Part) : Prop :=
  ∀ p ∈ ps, ∀ c ∈ p.value lookup, c ≠ '"' ∧ c ≠ '\\'

def Fits (lookup : String → Option String) (ps : List Part) : Prop :=
  ∀ p ∈ ps, ∀ c ∈ p.value lookup, isPlain c = true

variable {lookup : String → Option String} {ps qs : List Part}

instance : Decidable (Tame lookup ps) :=
  decidable_of_iff ((ps.flatMap (Part.value lookup)).all fun c => c ≠ '"' ∧ c ≠ '\\')
    (by simp [Tame])

instance : Decidable (Fits lookup ps) :=
  decidable_of_iff ((ps.flatMap (Part.value lookup)).all isPlain) (by simp [Fits])

@[simp] lemma fits_nil : Fits lookup [] := by simp [Fits]

@[simp] lemma fits_append : Fits lookup (ps ++ qs) ↔ Fits lookup ps ∧ Fits lookup qs := by
  simp [Fits, or_imp, forall_and]

@[simp] lemma fits_char (c : Char) : Fits lookup (.char c :: ps) ↔ Fits lookup ps := by
  simp [Fits, Part.value]

lemma fits_cons (p : Part) :
    Fits lookup (p :: ps) ↔ (∀ c ∈ p.value lookup, isPlain c = true) ∧ Fits lookup ps :=
  List.forall_mem_cons

@[simp] lemma fits_chars (cs : List Char) : Fits lookup (cs.map .char) := by
  simp [Fits, Part.value]

lemma tame_append : Tame lookup (ps ++ qs) ↔ Tame lookup ps ∧ Tame lookup qs :=
  List.forall_mem_append

lemma tame_iff : Tame lookup ps ↔ ∀ name, .expression name ∈ ps →
    ∀ c ∈ (Part.expression name).value lookup, c ≠ '"' ∧ c ≠ '\\' := by
  refine ⟨fun h name hn => h _ hn, ?_⟩
  intro h p hp
  cases p with
  | char c => simp [Part.value]
  | expression name => exact h name hp

lemma fits_iff : Fits lookup ps ↔ ∀ name, .expression name ∈ ps →
    ∀ c ∈ (Part.expression name).value lookup, isPlain c = true := by
  refine ⟨fun h name hn => h _ hn, ?_⟩
  intro h p hp
  cases p with
  | char c => simp [Part.value]
  | expression name => exact h name hp

def Breaks (cs : List Char) : Prop := ∃ c t, cs = c :: t ∧ isPlain c = false

/-- The parts with values in the places of expressions, and what follows them. The first value that
does not fit is cut before its control character; what stands from there on is given. -/
def spill (lookup : String → Option String) (cut : List Char) : List Part → List Char → List Char
  | [], rest => rest
  | .char c :: ps, rest => c :: spill lookup cut ps rest
  | .expression name :: ps, rest =>
    let value := (Part.expression name).value lookup
    if value.all isPlain then value ++ spill lookup cut ps rest
    else value.takeWhile isPlain ++ cut

variable {cut : List Char}

lemma spill_append (ps qs : List Part) (rest : List Char) :
    spill lookup cut (ps ++ qs) rest = spill lookup cut ps (spill lookup cut qs rest) := by
  induction ps with
  | nil => rfl
  | cons p ps ih =>
    cases p with
    | char c => rw [List.cons_append, spill, ih, spill]
    | expression name => rw [List.cons_append, spill, ih, spill]

@[simp] lemma spill_chars (cs rest : List Char) :
    spill lookup cut (cs.map .char) rest = cs ++ rest := by
  induction cs with
  | nil => rfl
  | cons c cs ih => rw [List.map_cons, spill, ih, List.cons_append]

lemma spill_of_fits (h : Fits lookup ps) (rest : List Char) :
    spill lookup cut ps rest = ps.flatMap (Part.filled lookup) ++ rest := by
  induction ps with
  | nil => rfl
  | cons p ps ih =>
    cases p with
    | char c =>
      rw [spill, ih ((fits_char c).mp h)]
      rfl
    | expression name =>
      obtain ⟨hvalue, hps⟩ := (fits_cons _).mp h
      rw [spill, if_pos (List.all_eq_true.mpr hvalue), ih hps, List.flatMap_cons,
        List.append_assoc]
      rfl

lemma spill_of_not_fits (h : ¬ Fits lookup ps) (rest rest' : List Char) :
    spill lookup cut ps rest = spill lookup cut ps rest' := by
  induction ps with
  | nil => exact absurd fits_nil h
  | cons p ps ih =>
    cases p with
    | char c => rw [spill, spill, ih (mt (fits_char c).mpr h)]
    | expression name =>
      rw [spill, spill]
      split
      · rename_i hvalue
        rw [ih]
        intro hps
        exact h ((fits_cons _).mpr ⟨List.all_eq_true.mp hvalue, hps⟩)
      · rfl

lemma length_spill_append (h : Fits lookup ps) (qs : List Part) :
    (spill lookup cut (ps ++ qs) []).length =
      (spill lookup cut ps []).length + (spill lookup cut qs []).length := by
  rw [spill_append, spill_of_fits h, spill_of_fits h]
  simp

lemma length_spill_le (ps qs : List Part) :
    (spill lookup cut ps []).length ≤ (spill lookup cut (ps ++ qs) []).length := by
  by_cases h : Fits lookup ps
  · rw [length_spill_append h]
    omega
  · rw [spill_append, spill_of_not_fits h]

namespace Toml

lemma readBasic_quote (cs : List Char) : readBasic ('"' :: cs) = some ([], cs) := by
  rw [readBasic.eq_def]
  rfl

lemma readBasic_cons {c : Char} (hquote : c ≠ '"') (hescape : c ≠ '\\') (cs : List Char) :
    readBasic (c :: cs) = if isPlain c then preceded c (readBasic cs) else none := by
  rw [readBasic.eq_def]
  simp only [hquote, hescape, if_false]

def Inside (cs xs : List Char) : Prop :=
  ∀ rest, readBasic (cs ++ rest) = (readBasic rest).map fun r => (xs ++ r.1, r.2)

lemma Inside.append {as xs bs ys : List Char} (ha : Inside as xs) (hb : Inside bs ys) :
    Inside (as ++ bs) (xs ++ ys) := by
  intro rest
  rw [List.append_assoc, ha, hb, Option.map_map]
  congr 1
  funext r
  simp

lemma inside_of_plain {cs : List Char}
    (h : ∀ c ∈ cs, isPlain c = true ∧ c ≠ '"' ∧ c ≠ '\\') : Inside cs cs := by
  induction cs with
  | nil =>
    intro rest
    simp
  | cons c cs ih =>
    obtain ⟨⟨hplain, hquote, hescape⟩, hcs⟩ := List.forall_mem_cons.mp h
    have hc : Inside [c] [c] := by
      intro rest
      rw [List.singleton_append, readBasic_cons hquote hescape, if_pos hplain]
      rfl
    exact hc.append (ih hcs)

lemma readBasic_of_breaks {cs : List Char} (h : Breaks cs) : readBasic cs = none := by
  obtain ⟨c, t, rfl, hc⟩ := h
  have hquote : c ≠ '"' := by
    rintro rfl
    exact absurd hc (by decide)
  have hescape : c ≠ '\\' := by
    rintro rfl
    exact absurd hc (by decide)
  rw [readBasic_cons hquote hescape, if_neg (by simp [hc])]

inductive Quoted : List Part → List Part → Prop
  | nil : Quoted [] []
  | stretch {cs xs : List Char} {ps ts : List Part} :
      Inside cs xs → Quoted ps ts → Quoted (cs.map .char ++ ps) (xs.map .char ++ ts)
  | expression {name : String} {ps ts : List Part} :
      '\x7d' ∉ name.toList → Quoted ps ts →
      Quoted (.expression name :: ps) (.expression name :: ts)

namespace Quoted

lemma of_plain {cs : List Char} (h : cs.all fun c => isPlain c ∧ c ≠ '"' ∧ c ≠ '\\') :
    Quoted (cs.map .char) (cs.map .char) := by
  have hcs : Inside cs cs := inside_of_plain (by simpa using h)
  simpa using stretch hcs .nil

variable {ps ts : List Part}

lemma fits (h : Quoted ps ts) : Fits lookup ts ↔ Fits lookup ps := by
  induction h with
  | nil => rfl
  | stretch _ _ ih => simp [ih]
  | expression _ _ ih => rw [fits_cons, fits_cons, ih]

lemma closed (h : Quoted ps ts) : Template.Closed ts := by
  induction h with
  | nil => simp [Template.Closed]
  | stretch _ _ ih =>
    intro name hn
    apply ih name
    simpa using hn
  | expression hname _ ih =>
    intro name hn
    rcases List.mem_cons.mp hn with hn | hn
    · rwa [Part.expression.inj hn]
    · exact ih name hn

lemma readBasic_spill (h : Quoted ps ts) (ht : Tame lookup ps) (hcut : Breaks cut)
    (rest : List Char) :
    readBasic (spill lookup cut ps ('"' :: rest)) =
      if Fits lookup ps then some (ts.flatMap (Part.filled lookup), rest) else none := by
  induction h with
  | nil =>
    rw [if_pos fits_nil, spill, readBasic_quote]
    rfl
  | @stretch cs xs ps ts hcs _ ih =>
    have htail := (tame_append.mp ht).2
    rw [spill_append, spill_chars, hcs, ih htail, List.flatMap_append, Template.filled_chars]
    by_cases hps : Fits lookup ps <;> simp [hps]
  | @expression name ps ts _ _ ih =>
    obtain ⟨hvalue, htail⟩ := List.forall_mem_cons.mp ht
    rw [spill]
    by_cases hfit : ∀ c ∈ (Part.expression name).value lookup, isPlain c = true
    · have hinside := inside_of_plain fun c hc => ⟨hfit c hc, hvalue c hc⟩
      rw [if_pos (List.all_eq_true.mpr hfit), hinside, ih htail]
      by_cases hps : Fits lookup ps
      · rw [if_pos hps, if_pos ((fits_cons _).mpr ⟨hfit, hps⟩)]
        rfl
      · rw [if_neg hps, if_neg (mt (fun hn => ((fits_cons _).mp hn).2) hps)]
        rfl
    · -- The value is read up to its control character, at which every reading stops.
      have hinside : Inside (((Part.expression name).value lookup).takeWhile isPlain) _ :=
        inside_of_plain fun c hc =>
          ⟨List.mem_takeWhile_imp hc, hvalue c ((List.takeWhile_sublist _).mem hc)⟩
      rw [if_neg (mt List.all_eq_true.mp hfit), hinside, readBasic_of_breaks hcut,
        if_neg (mt (fun hn => ((fits_cons _).mp hn).1) hfit)]
      rfl

lemma spill_of_quote (h : Quoted ps ts) (ht : Tame lookup ps) (hcut : Breaks cut)
    {rest : List Char} (hq : (spill lookup cut ps ('"' :: rest)).head? = some '"') :
    spill lookup cut ps ('"' :: rest) = '"' :: rest := by
  induction h with
  | nil => rfl
  | @stretch cs xs ps ts hcs _ ih =>
    rw [spill_append, spill_chars] at hq ⊢
    cases cs with
    | nil => exact ih (tame_append.mp ht).2 hq
    | cons c cs =>
      obtain rfl := Option.some.inj hq
      exact absurd (hcs []) (by simp [readBasic_quote, readBasic])
  | @expression name ps ts _ _ ih =>
    obtain ⟨hvalue, htail⟩ := List.forall_mem_cons.mp ht
    have hmem : '"' ∉ (Part.expression name).value lookup :=
      fun hc => (hvalue '"' hc).1 rfl
    by_cases hfit : ((Part.expression name).value lookup).all isPlain = true
    · rw [spill, if_pos hfit] at hq ⊢
      cases hv : (Part.expression name).value lookup with
      | nil =>
        rw [hv] at hq
        exact ih htail hq
      | cons c cs =>
        rw [hv] at hq hmem
        obtain rfl := Option.some.inj hq
        exact absurd List.mem_cons_self hmem
    · obtain ⟨c, t, rfl, hc⟩ := hcut
      rw [spill, if_neg hfit, List.head?_append] at hq
      rcases Option.or_eq_some_iff.mp hq with hu | ⟨-, hh⟩
      · exact absurd ((List.takeWhile_sublist _).mem (List.mem_of_head? hu)) hmem
      · obtain rfl := Option.some.inj hh
        exact absurd hc (by decide)

lemma readText_spill (h : Quoted ps ts) (ht : Tame lookup ps) (hcut : Breaks cut)
    {rest : List Char} (hrest : rest.head? ≠ some '"') :
    readText ('"' :: spill lookup cut ps ('"' :: rest)) =
      if Fits lookup ps then some (ts.flatMap (Part.filled lookup), rest) else none := by
  rw [← h.readBasic_spill ht hcut rest]
  generalize hcs : spill lookup cut ps ('"' :: rest) = cs
  have hopen : ∀ t, cs ≠ '"' :: '"' :: t := by
    rintro t rfl
    have hq := h.spill_of_quote ht hcut (by rw [hcs]; rfl)
    rw [hcs] at hq
    exact hrest (by rw [← (List.cons.inj hq).2]; rfl)
  rw [readText]
  exact fun t ht => hopen t ht

end Quoted

end Toml

end TurnTaking
