import Mathlib.Data.List.Chain
import Mathlib.Tactic.Common
import TurnTaking.Settings.Interpolation

/-!
A text is in exactly one way a row of characters and expressions, behind which an expression may be
left open.
-/

namespace TurnTaking

inductive Part where
  | char (c : Char)
  | expression (name : String)
  deriving DecidableEq, Repr

namespace Part

def written : Part → List Char
  | char c => [c]
  | expression name => '$' :: '\x7b' :: (name.toList ++ ['\x7d'])

def filled (lookup : String → Option String) : Part → List Char
  | char c => [c]
  | expression name => ((lookup name).getD "").toList

end Part

structure Breakdown where
  parts : List Part
  unclosed : Option (List Char)
  deriving DecidableEq, Repr

namespace Breakdown

def rest : Option (List Char) → List Char
  | none => []
  | some cs => '$' :: '\x7b' :: cs

def text (o : Breakdown) : List Char :=
  o.parts.flatMap Part.written ++ rest o.unclosed

/-- Expressions end at the first brace that can close them, and wherever one can begin one does. -/
structure IsProper (o : Breakdown) : Prop where
  closed : ∀ name, .expression name ∈ o.parts → '\x7d' ∉ name.toList
  apart : o.parts.IsChain fun p q => ¬ (p = .char '$' ∧ q = .char '\x7b')
  unclosed : ∀ cs ∈ o.unclosed, '\x7d' ∉ cs

def cons (p : Part) (o : Breakdown) : Breakdown := ⟨p :: o.parts, o.unclosed⟩

lemma text_cons (p : Part) (o : Breakdown) : (cons p o).text = p.written ++ o.text := by
  simp [cons, text]

lemma head?_text {p : Part} {o : Breakdown} (h : p ∈ o.parts.head?) :
    o.text.head? = p.written.head? := by
  obtain ⟨parts, unclosed⟩ := o
  cases parts with
  | nil => cases h
  | cons q parts =>
    obtain rfl := Option.some.inj h
    cases q <;> rfl

lemma IsProper.tail {p : Part} {parts : List Part} {unclosed : Option (List Char)}
    (h : IsProper ⟨p :: parts, unclosed⟩) : IsProper ⟨parts, unclosed⟩ where
  closed name hn := h.closed name (List.mem_cons_of_mem _ hn)
  apart := h.apart.of_cons
  unclosed := h.unclosed

/-- The text is read from the left. Inside an expression, `name` holds its characters so far,
backwards. -/
def ofFrom : Option (List Char) → List Char → Breakdown
  | none, [] => ⟨[], none⟩
  | none, '$' :: '\x7b' :: cs => ofFrom (some []) cs
  | none, c :: cs => cons (.char c) (ofFrom none cs)
  | some name, [] => ⟨[], some name.reverse⟩
  | some name, c :: cs =>
    if c = '\x7d' then cons (.expression (String.ofList name.reverse)) (ofFrom none cs)
    else ofFrom (some (c :: name)) cs

lemma text_ofFrom (inside : Option (List Char)) (cs : List Char) :
    (ofFrom inside cs).text = rest (inside.map List.reverse) ++ cs := by
  fun_induction ofFrom inside cs with
  | case1 => rfl
  | case2 cs ih => rw [ih]; rfl
  | case3 c cs _ ih => rw [text_cons, ih]; rfl
  | case4 name => simp [text, rest]
  | case5 name cs ih => simp [text_cons, ih, Part.written, rest]
  | case6 name c cs _ ih => rw [ih]; simp [rest]

lemma isProper_ofFrom (inside : Option (List Char)) (cs : List Char)
    (hn : ∀ name ∈ inside, '\x7d' ∉ name) : (ofFrom inside cs).IsProper := by
  fun_induction ofFrom inside cs with
  | case1 => exact ⟨by simp, .nil, by simp⟩
  | case2 cs ih => exact ih (by simp)
  | case3 c cs hc ih =>
    have hp := ih (by simp)
    refine ⟨by simpa [cons] using hp.closed, ?_, hp.unclosed⟩
    rw [cons, List.isChain_cons]
    refine ⟨?_, hp.apart⟩
    rintro q hq ⟨hd, rfl⟩
    obtain rfl := Part.char.inj hd
    have hh := head?_text hq
    rw [text_ofFrom] at hh
    obtain ⟨ds, rfl⟩ : ∃ ds, cs = '\x7b' :: ds := by
      cases cs with
      | nil => cases hh
      | cons d ds => exact ⟨ds, by rw [Option.some.inj hh]⟩
    exact hc ds rfl rfl
  | case4 name => exact ⟨by simp, .nil, by simpa using hn⟩
  | case5 name cs ih =>
    have hp := ih (by simp)
    refine ⟨?_, ?_, hp.unclosed⟩
    · simpa [cons] using ⟨by simpa using hn, hp.closed⟩
    · rw [cons, List.isChain_cons]
      exact ⟨by simp, hp.apart⟩
  | case6 name c cs hc ih => exact ih (by simpa [Ne.symm hc] using hn)

lemma ofFrom_char {c : Char} {cs : List Char} (h : ¬ (c = '$' ∧ cs.head? = some '\x7b')) :
    ofFrom none (c :: cs) = cons (.char c) (ofFrom none cs) := by
  rw [ofFrom]
  rintro ds rfl rfl
  exact h ⟨rfl, rfl⟩

lemma ofFrom_name {before name : List Char} (h : '\x7d' ∉ name) (cs : List Char) :
    ofFrom (some before) (name ++ cs) = ofFrom (some (name.reverse ++ before)) cs := by
  induction name generalizing before with
  | nil => rfl
  | cons c name ih =>
    rw [List.mem_cons, not_or] at h
    rw [List.cons_append, ofFrom, if_neg (Ne.symm h.1), ih h.2]
    simp

lemma head?_parts {o : Breakdown} (h : o.text.head? = some '\x7b') :
    o.parts.head? = some (.char '\x7b') := by
  obtain ⟨parts, unclosed⟩ := o
  cases parts with
  | nil => cases unclosed <;> simp [text, rest] at h
  | cons p parts =>
    have hp := head?_text (o := ⟨p :: parts, unclosed⟩) (p := p) rfl
    rw [h] at hp
    cases p with
    | char c => rw [Option.some.inj hp]; rfl
    | expression name => simp [Part.written] at hp

lemma ofFrom_text {o : Breakdown} (h : o.IsProper) : ofFrom none o.text = o := by
  obtain ⟨parts, unclosed⟩ := o
  induction parts with
  | nil =>
    cases unclosed with
    | none => rfl
    | some cs =>
      have hcs : ofFrom (some []) (cs ++ []) = _ := ofFrom_name (h.unclosed cs rfl) []
      show ofFrom (some []) cs = _
      rw [List.append_nil] at hcs
      rw [hcs]
      simp [ofFrom]
  | cons p parts ih =>
    have hparts := ih h.tail
    have htext : (⟨p :: parts, unclosed⟩ : Breakdown).text = p.written ++ text ⟨parts, unclosed⟩ :=
      text_cons p ⟨parts, unclosed⟩
    rw [htext]
    cases p with
    | char c =>
      show ofFrom none (c :: text ⟨parts, unclosed⟩) = _
      rw [ofFrom_char, hparts]
      · rfl
      · rintro ⟨rfl, hh⟩
        exact (List.isChain_cons.mp h.apart).1 _ (head?_parts hh) ⟨rfl, rfl⟩
    | expression name =>
      have hname := h.closed name List.mem_cons_self
      show ofFrom (some []) (name.toList ++ ['\x7d'] ++ text ⟨parts, unclosed⟩) = _
      rw [List.append_assoc, ofFrom_name hname, List.singleton_append, ofFrom, if_pos rfl, hparts]
      simp [cons]

lemma eq_ofFrom {o : Breakdown} (h : o.IsProper) {cs : List Char} (ht : o.text = cs) :
    o = ofFrom none cs := by
  rw [← ht, ofFrom_text h]

lemma existsUnique_breakdown (s : String) : ∃! o : Breakdown, o.IsProper ∧ o.text = s.toList := by
  refine ⟨ofFrom none s.toList, ⟨isProper_ofFrom none s.toList (by simp), ?_⟩, ?_⟩
  · exact text_ofFrom none s.toList
  · rintro o ⟨hp, ht⟩
    exact eq_ofFrom hp ht

lemma isProper_append {o : Breakdown} {parts : List Part} (hp : IsProper ⟨parts, none⟩)
    (ho : o.IsProper)
    (h : ¬ (parts.getLast? = some (.char '$') ∧ o.parts.head? = some (.char '\x7b'))) :
    IsProper ⟨parts ++ o.parts, o.unclosed⟩ := by
  refine ⟨?_, ?_, ho.unclosed⟩
  · intro name hn
    rcases List.mem_append.mp hn with hn | hn
    · exact hp.closed name hn
    · exact ho.closed name hn
  · refine List.isChain_append.mpr ⟨hp.apart, ho.apart, ?_⟩
    rintro p hl q hh ⟨rfl, rfl⟩
    exact h ⟨hl, hh⟩

def resolve (lookup : String → Option String) (unclosed : Option (List Char)) :
    List Part → Except InterpolationFault (List Char)
  | [] => if unclosed.isSome then .error .unterminated else .ok []
  | .char c :: parts => (resolve lookup unclosed parts).map (c :: ·)
  | .expression name :: parts =>
    match lookup name with
    | some value => (resolve lookup unclosed parts).map (value.toList ++ ·)
    | none => .error (.missing name)

variable {lookup : String → Option String}

lemma interpolateFrom_eq (inside : Option (List Char)) (cs : List Char) :
    interpolateFrom lookup inside cs =
      resolve lookup (ofFrom inside cs).unclosed (ofFrom inside cs).parts := by
  fun_induction ofFrom inside cs with
  | case1 => rfl
  | case2 cs ih => exact ih
  | case3 c cs hc ih =>
    rw [interpolateFrom, ih]
    · rfl
    · exact hc
  | case4 name => rfl
  | case5 name cs ih =>
    rw [interpolateFrom, if_pos rfl, ih]
    cases hv : lookup (String.ofList name.reverse) <;> simp [cons, resolve, hv]
  | case6 name c cs hc ih => rw [interpolateFrom, if_neg hc, ih]

lemma interpolate_text {o : Breakdown} (h : o.IsProper) {s : String} (ht : o.text = s.toList) :
    interpolate lookup s = (resolve lookup o.unclosed o.parts).map String.ofList := by
  rw [interpolate, interpolateFrom_eq, ← ht, ofFrom_text h]

def IsSet (lookup : String → Option String) (parts : List Part) : Prop :=
  ∀ name, .expression name ∈ parts → (lookup name).isSome = true

def FirstMissing (lookup : String → Option String) (parts : List Part) (name : String) : Prop :=
  ∃ before after, parts = before ++ .expression name :: after ∧ IsSet lookup before ∧
    lookup name = none

lemma isSet_char (c : Char) (parts : List Part) :
    IsSet lookup (.char c :: parts) ↔ IsSet lookup parts := by
  simp [IsSet]

lemma isSet_expression (name : String) (parts : List Part) :
    IsSet lookup (.expression name :: parts) ↔
      (lookup name).isSome = true ∧ IsSet lookup parts := by
  simp [IsSet]

lemma isSet_or_firstMissing (lookup : String → Option String) (parts : List Part) :
    IsSet lookup parts ∨ ∃ name, FirstMissing lookup parts name := by
  induction parts with
  | nil => exact .inl (by simp [IsSet])
  | cons p parts ih =>
    cases p with
    | char c =>
      rcases ih with hs | ⟨name, before, after, rfl, hs, hn⟩
      · exact .inl ((isSet_char c parts).mpr hs)
      · exact .inr ⟨name, .char c :: before, after, rfl, (isSet_char c before).mpr hs, hn⟩
    | expression n =>
      cases hv : lookup n with
      | none => exact .inr ⟨n, [], parts, rfl, by simp [IsSet], hv⟩
      | some value =>
        have hset : (lookup n).isSome = true := by simp [hv]
        rcases ih with hs | ⟨name, before, after, rfl, hs, hn⟩
        · exact .inl ((isSet_expression n parts).mpr ⟨hset, hs⟩)
        · exact .inr ⟨name, .expression n :: before, after, rfl,
            (isSet_expression n before).mpr ⟨hset, hs⟩, hn⟩

lemma resolve_append {parts : List Part} (h : IsSet lookup parts) (unclosed : Option (List Char))
    (others : List Part) :
    resolve lookup unclosed (parts ++ others) =
      (resolve lookup unclosed others).map (parts.flatMap (Part.filled lookup) ++ ·) := by
  induction parts with
  | nil => cases hr : resolve lookup unclosed others <;> simp [Except.map, hr]
  | cons p parts ih =>
    cases p with
    | char c =>
      rw [List.cons_append, resolve, ih ((isSet_char c parts).mp h)]
      cases resolve lookup unclosed others <;> rfl
    | expression name =>
      obtain ⟨hv, hs⟩ := (isSet_expression name parts).mp h
      obtain ⟨value, hv⟩ := Option.isSome_iff_exists.mp hv
      rw [List.cons_append, resolve, ih hs, hv]
      cases resolve lookup unclosed others <;> simp [Except.map, Part.filled, hv]

lemma resolve_of_isSet {parts : List Part} (h : IsSet lookup parts)
    (unclosed : Option (List Char)) :
    resolve lookup unclosed parts =
      if unclosed.isSome then .error .unterminated
      else .ok (parts.flatMap (Part.filled lookup)) := by
  have ha := resolve_append h unclosed []
  rw [List.append_nil, resolve] at ha
  rw [ha]
  split <;> simp [Except.map]

lemma resolve_of_firstMissing {parts : List Part} {name : String}
    (h : FirstMissing lookup parts name) (unclosed : Option (List Char)) :
    resolve lookup unclosed parts = .error (.missing name) := by
  obtain ⟨before, after, rfl, hs, hn⟩ := h
  rw [resolve_append hs, resolve, hn]
  rfl

lemma not_isSet_of_firstMissing {parts : List Part} {name : String}
    (h : FirstMissing lookup parts name) : ¬ IsSet lookup parts := by
  obtain ⟨before, after, rfl, -, hn⟩ := h
  intro hs
  have hset := hs name (by simp)
  simp [hn] at hset

lemma firstMissing_unique {parts : List Part} {m n : String} (hm : FirstMissing lookup parts m)
    (hn : FirstMissing lookup parts n) : m = n := by
  have h := (resolve_of_firstMissing hm none).symm.trans (resolve_of_firstMissing hn none)
  exact InterpolationFault.missing.inj (Except.error.inj h)

section

variable {o : Breakdown} (h : o.IsProper) {s : String} (ht : o.text = s.toList)

include h ht

lemma interpolate_of_isSet (hs : IsSet lookup o.parts) :
    interpolate lookup s =
      if o.unclosed.isSome then .error .unterminated
      else .ok (String.ofList (o.parts.flatMap (Part.filled lookup))) := by
  rw [interpolate_text h ht, resolve_of_isSet hs]
  split <;> rfl

lemma interpolate_of_firstMissing {name : String} (hm : FirstMissing lookup o.parts name) :
    interpolate lookup s = .error (.missing name) := by
  rw [interpolate_text h ht, resolve_of_firstMissing hm]
  rfl

lemma interpolate_eq_ok_iff (r : String) :
    interpolate lookup s = .ok r ↔
      o.unclosed = none ∧ IsSet lookup o.parts ∧
        r.toList = o.parts.flatMap (Part.filled lookup) := by
  rcases isSet_or_firstMissing lookup o.parts with hs | ⟨name, hm⟩
  · rw [interpolate_of_isSet h ht hs]
    cases o.unclosed with
    | none => simp [hs, String.ext_iff, eq_comm]
    | some cs => simp
  · simp [interpolate_of_firstMissing h ht hm, not_isSet_of_firstMissing hm]

lemma interpolate_eq_missing_iff (name : String) :
    interpolate lookup s = .error (.missing name) ↔ FirstMissing lookup o.parts name := by
  rcases isSet_or_firstMissing lookup o.parts with hs | ⟨n, hm⟩
  · rw [interpolate_of_isSet h ht hs]
    have hn : ¬ FirstMissing lookup o.parts name := fun hn => not_isSet_of_firstMissing hn hs
    cases o.unclosed <;> simp [hn]
  · rw [interpolate_of_firstMissing h ht hm]
    constructor
    · intro he
      obtain rfl := InterpolationFault.missing.inj (Except.error.inj he)
      exact hm
    · intro hn
      rw [firstMissing_unique hm hn]

lemma interpolate_eq_unterminated_iff :
    interpolate lookup s = .error .unterminated ↔
      o.unclosed.isSome = true ∧ IsSet lookup o.parts := by
  rcases isSet_or_firstMissing lookup o.parts with hs | ⟨name, hm⟩
  · rw [interpolate_of_isSet h ht hs]
    cases o.unclosed <;> simp [hs]
  · simp [interpolate_of_firstMissing h ht hm, not_isSet_of_firstMissing hm]

end

lemma getLast?_text {parts : List Part} {c : Char} (h : parts.getLast? = some (.char c)) :
    (text ⟨parts, none⟩).getLast? = some c := by
  obtain ⟨front, rfl⟩ := List.getLast?_eq_some_iff.mp h
  simp [text, rest, Part.written]

lemma interpolate_append {a b x : String} (ha : interpolate lookup a = .ok x)
    (h : ¬ (a.toList.getLast? = some '$' ∧ b.toList.head? = some '\x7b')) :
    interpolate lookup (a ++ b) = (interpolate lookup b).map (x ++ ·) := by
  obtain ⟨⟨parts, unclosed⟩, ⟨hp, ht⟩, -⟩ := existsUnique_breakdown a
  obtain ⟨o, ⟨ho, hto⟩, -⟩ := existsUnique_breakdown b
  obtain ⟨rfl, hs, hx⟩ := (interpolate_eq_ok_iff hp ht x).mp ha
  have hcut : ¬ (parts.getLast? = some (.char '$') ∧ o.parts.head? = some (.char '\x7b')) := by
    rintro ⟨hl, hh⟩
    refine h ⟨?_, ?_⟩
    · rw [← ht]
      exact getLast?_text hl
    · rw [← hto, head?_text hh]
      rfl
  have htext : text ⟨parts ++ o.parts, o.unclosed⟩ = (a ++ b).toList := by
    rw [String.toList_append, ← ht, ← hto]
    simp [text, rest]
  rw [interpolate_text (isProper_append hp ho hcut) htext, interpolate_text ho hto,
    resolve_append hs, ← hx]
  cases resolve lookup o.unclosed o.parts <;> simp [Except.map]

/-- Interpolation succeeds exactly if no expression is left open and every variable is set; else it
names the first variable that is not set, and if there is none the open expression. -/
theorem interpolate_substitutes (lookup : String → Option String) :
    (∀ s : String, ∃! o : Breakdown, o.IsProper ∧ o.text = s.toList) ∧
    (∀ (s : String) (o : Breakdown), o.IsProper → o.text = s.toList →
      (∀ r, interpolate lookup s = .ok r ↔ o.unclosed = none ∧ IsSet lookup o.parts ∧
        r.toList = o.parts.flatMap (Part.filled lookup)) ∧
      (∀ name, interpolate lookup s = .error (.missing name) ↔
        FirstMissing lookup o.parts name) ∧
      (interpolate lookup s = .error .unterminated ↔
        o.unclosed.isSome = true ∧ IsSet lookup o.parts)) ∧
    ∀ a b x : String, interpolate lookup a = .ok x →
      ¬ (a.toList.getLast? = some '$' ∧ b.toList.head? = some '\x7b') →
      interpolate lookup (a ++ b) = (interpolate lookup b).map (x ++ ·) := by
  refine ⟨existsUnique_breakdown, ?_, ?_⟩
  · intro s o h ht
    exact ⟨interpolate_eq_ok_iff h ht, interpolate_eq_missing_iff h ht,
      interpolate_eq_unterminated_iff h ht⟩
  · intro a b x ha h
    exact interpolate_append ha h

theorem interpolate_substitutes_dollars :
    let lookup := fun name =>
      if name = "A" then some "$\x7bB\x7d" else if name = "" then some "!" else none
    let o : Breakdown := ⟨[.char '$', .expression "A"], none⟩
    let p : Breakdown :=
      ⟨[.char '\x7b', .expression "", .expression "X$\x7b"], some ['$', '\x7b', 'A']⟩
    let a := "$$\x7bA\x7d"
    let b := "\x7b$\x7b\x7d$\x7bX$\x7b\x7d$\x7b$\x7bA"
    o.IsProper ∧ o.text = a.toList ∧ p.IsProper ∧ p.text = b.toList ∧
      interpolate lookup a = .ok "$$\x7bB\x7d" ∧
      interpolate lookup b = .error (.missing "X$\x7b") ∧
      interpolate lookup (a ++ b) = .error (.missing "X$\x7b") := by
  intro lookup o p a b
  obtain ⟨-, hbreakdown, happend⟩ := interpolate_substitutes lookup
  have ho : o.IsProper := ⟨by simp [o], by simp [o], by simp [o]⟩
  have hp : p.IsProper := ⟨by simp [p], by simp [p], by simp [p]⟩
  have hot : o.text = a.toList := by decide
  have hpt : p.text = b.toList := by decide
  have ha : interpolate lookup a = .ok "$$\x7bB\x7d" := by
    refine ((hbreakdown a o ho hot).1 _).mpr ⟨rfl, ?_, by decide⟩
    simp [IsSet, o, lookup]
  have hb : interpolate lookup b = .error (.missing "X$\x7b") := by
    refine ((hbreakdown b p hp hpt).2.1 _).mpr ⟨[.char '\x7b', .expression ""], [], rfl, ?_, rfl⟩
    simp [IsSet, lookup]
  refine ⟨ho, hot, hp, hpt, ha, hb, ?_⟩
  rw [happend a b _ ha (by decide), hb]
  rfl

end Breakdown

end TurnTaking
