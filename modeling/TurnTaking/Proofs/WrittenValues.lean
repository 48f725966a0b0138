import Mathlib.Data.List.DropRight
import TurnTaking.Proofs.DocumentTexts
import TurnTaking.Proofs.QuotedExpressions

/-! What stands around quoted texts is read alike before anything that may follow it. -/

namespace TurnTaking.Toml

variable {lookup : String → Option String} {cut : List Char}

def Ends (rest : List Char) : Prop :=
  ∀ c ∈ (skipSpace rest).head?, c ∈ [',', ']', '\x7d', '#', '\n']

def IsGap (g : List Char) : Prop := ∀ rest, skipGap false (g ++ rest) = skipGap false rest

def Quiet (g : List Char) : Prop := ∀ c ∈ (skipSpace g).head?, c = '#' ∨ c = '\n'

lemma quiet_cons_space {c : Char} {g : List Char} (hc : isSpace c = true) (h : Quiet g) :
    Quiet (c :: g) := by
  rwa [Quiet, skipSpace, List.dropWhile_cons_of_pos hc]

lemma quiet_cons_mark {c : Char} {g : List Char} (hc : c = '#' ∨ c = '\n') : Quiet (c :: g) := by
  have hspace : isSpace c = false := by rcases hc with rfl | rfl <;> decide
  rw [Quiet, skipSpace, List.dropWhile_cons_of_neg (by simp [hspace])]
  rintro d ⟨⟩
  exact hc

lemma IsGap.quiet {g : List Char} (h : IsGap g) : Quiet g := by
  induction g with
  | nil => simp [Quiet, skipSpace]
  | cons c g ih =>
    by_cases hmark : c = '#' ∨ c = '\n'
    · exact quiet_cons_mark hmark
    · rw [not_or] at hmark
      have hskip (rest : List Char) : skipGap false (c :: g ++ rest) =
          if isSpace c then skipGap false (g ++ rest) else some (c :: (g ++ rest)) := by
        rw [List.cons_append, skipGap]
        simp [hmark.1, hmark.2]
      by_cases hc : isSpace c = true
      · apply quiet_cons_space hc
        apply ih
        intro rest
        rw [← h rest, hskip, if_pos hc]
      · have hnil := h []
        rw [hskip, if_neg hc] at hnil
        cases hnil

lemma Quiet.ends_append {g rest : List Char} (h : Quiet g) (hr : Ends rest) : Ends (g ++ rest) := by
  intro c hc
  rw [skipSpace, List.dropWhile_append] at hc
  split at hc
  · exact hr c hc
  · rename_i hne
    rw [List.head?_append_of_ne_nil _ (by simpa using hne)] at hc
    rcases h c hc with rfl | rfl <;> simp

lemma ends_cons {c : Char} (h : c ∈ [',', ']', '\x7d', '#', '\n']) (rest : List Char) :
    Ends (c :: rest) := by
  have hspace : isSpace c = false := by
    simp only [List.mem_cons, List.not_mem_nil, or_false] at h
    rcases h with rfl | rfl | rfl | rfl | rfl <;> rfl
  rw [Ends, skipSpace, List.dropWhile_cons_of_neg (by simp [hspace])]
  rintro d ⟨⟩
  exact h

def Begins (ps : List Part) : Prop :=
  ∃ c qs, ps = .char c :: qs ∧ c ∉ [' ', '\t', '\n', '#', ']']

namespace Begins

variable {ps : List Part} (h : Begins ps) (rest : List Char)

include h

lemma skipSpace_spill : skipSpace (spill lookup cut ps rest) = spill lookup cut ps rest := by
  obtain ⟨c, qs, rfl, hc⟩ := h
  have hspace : isSpace c = false := by
    simp only [List.mem_cons, not_or] at hc
    simp [isSpace, hc.1, hc.2.1]
  rw [spill, skipSpace, List.dropWhile_cons_of_neg (by simp [hspace])]

lemma skipGap_spill :
    skipGap false (spill lookup cut ps rest) = some (spill lookup cut ps rest) := by
  obtain ⟨c, qs, rfl, hc⟩ := h
  simp only [List.mem_cons, not_or] at hc
  rw [spill, skipGap]
  simp [isSpace, hc]

lemma length_pos (qs : List Part) : 0 < (spill lookup cut (ps ++ qs) []).length := by
  obtain ⟨c, rs, rfl, -⟩ := h
  rw [List.cons_append, spill, List.length_cons]
  omega

end Begins

structure IsValueText (depth : Nat) (cs : List Char) (v : Value) : Prop where
  begins : Begins (cs.map .char)
  reads : ∀ (fuel : Nat) (rest : List Char), 2 * cs.length ≤ fuel → Ends rest →
    readValue fuel depth (cs ++ rest) = some (v, rest)

lemma isValueText_true (depth : Nat) : IsValueText depth "true".toList (.boolean true) := by
  refine ⟨⟨_, _, rfl, by decide⟩, ?_⟩
  intro fuel rest hf _
  obtain ⟨n, rfl⟩ : ∃ n, fuel = n + 1 := ⟨fuel - 1, by simp at hf; omega⟩
  show readValue (n + 1) depth ('t' :: 'r' :: 'u' :: 'e' :: rest) = _
  rw [readValue]

def IsKeyText (cs : List Char) (key : List String) : Prop :=
  ∀ rest, readKey (cs ++ '=' :: rest) = some (key, '=' :: rest)

structure Item where
  before : List Char
  parts : List Part
  value : Value
  after : List Char

def Item.quoted (before : List Char) (ps ts : List Part) : Item :=
  ⟨before, .char '"' :: (ps ++ [.char '"']), .text (Template.ofParts ts), []⟩

def Item.text (i : Item) (stop : Char) : List Part :=
  i.before.map .char ++ (i.parts ++ (i.after ++ [stop]).map .char)

namespace Item

lemma spill_text (i : Item) (stop : Char) (rest : List Char) :
    spill lookup cut (i.text stop) rest =
      i.before ++ spill lookup cut i.parts (i.after ++ stop :: rest) := by
  rw [text, spill_append, spill_append, spill_chars, spill_chars, List.append_assoc]
  rfl

@[simp] lemma fits_text (i : Item) (stop : Char) :
    Fits lookup (i.text stop) ↔ Fits lookup i.parts := by
  simp [text]

lemma length_parts_le (i : Item) (stop : Char) (qs : List Part) :
    (spill lookup cut i.parts []).length ≤ (spill lookup cut (i.text stop ++ qs) []).length := by
  have hle : (spill lookup cut i.parts []).length ≤ _ :=
    length_spill_le i.parts ((i.after ++ [stop]).map .char ++ qs)
  rw [text, List.append_assoc, List.append_assoc, spill_append, spill_chars, List.length_append]
  omega

lemma length_rest_lt (i : Item) (stop : Char) {qs : List Part} (h : Fits lookup i.parts) :
    (spill lookup cut qs []).length < (spill lookup cut (i.text stop ++ qs) []).length := by
  rw [spill_append, spill_text, spill_of_fits h]
  simp only [List.length_append, List.length_cons]
  omega

end Item

structure Binding where
  name : List Char
  key : List String
  item : Item

def Binding.text (b : Binding) (stop : Char) : List Part :=
  (b.name ++ ['=']).map .char ++ b.item.text stop

def arrayText (gap : List Char) (last : Option Item) : List Item → List Part
  | [] =>
    match last with
    | none => (gap ++ [']']).map .char
    | some i => i.text ']'
  | i :: items => i.text ',' ++ arrayText gap last items

def tableText (last : Binding) : List Binding → List Part
  | [] => last.text '\x7d'
  | b :: bindings => b.text ',' ++ tableText last bindings

/-- The parts with which a value is written. The texts of the value keep their expressions. -/
inductive Written : Nat → List Part → Value → Prop
  | plain {depth : Nat} {cs : List Char} {v : Value} :
      IsValueText depth cs v → Written depth (cs.map .char) (v.mapTexts Template.ofText)
  | quoted {depth : Nat} {ps ts : List Part} :
      Quoted ps ts →
      Written depth (.char '"' :: (ps ++ [.char '"'])) (.text (Template.ofParts ts))
  | array {depth : Nat} {items : List Item} {last : Option Item} {gap : List Char} :
      IsGap gap → (∀ i ∈ items ++ last.toList, IsGap i.before) →
      (∀ i ∈ items ++ last.toList, IsGap i.after) →
      (∀ i ∈ items ++ last.toList, Written depth i.parts i.value) →
      Written (depth + 1) (.char '[' :: arrayText gap last items)
        (.array ((items ++ last.toList).map Item.value))
  | table {depth : Nat} {bindings : List Binding} {last : Binding} {entries : Entries} :
      (∀ b ∈ bindings ++ [last], IsKeyText b.name b.key) →
      (∀ b ∈ bindings ++ [last], ∀ c ∈ b.item.before ++ b.item.after, isSpace c = true) →
      (∀ b ∈ bindings ++ [last], Written depth b.item.parts b.item.value) →
      Entries.ofBindings ((bindings ++ [last]).map fun b => (b.key, b.item.value)) = some entries →
      Written (depth + 1) (.char '\x7b' :: tableText last bindings) (.table .braces entries)

structure Reads (lookup : String → Option String) (cut : List Char) (depth : Nat) (ps : List Part)
    (v : Value) : Prop where
  begins : Begins ps
  reads : ∀ (fuel : Nat) (rest : List Char), 2 * (spill lookup cut ps []).length ≤ fuel →
    Ends rest → readValue fuel depth (spill lookup cut ps rest) =
      if Fits lookup ps then some (v.mapTexts (Template.fill lookup), rest) else none

def Item.filled (lookup : String → Option String) (i : Item) : Value :=
  i.value.mapTexts (Template.fill lookup)

structure Item.IsRead (lookup : String → Option String) (cut : List Char) (depth : Nat) (i : Item) :
    Prop where
  before : IsGap i.before
  after : IsGap i.after
  reads : Reads lookup cut depth i.parts i.value

namespace Item.IsRead

variable {depth fuel : Nat} {i : Item} (h : i.IsRead lookup cut depth)

include h

lemma skipGap_text (stop : Char) (rest : List Char) :
    skipGap false (spill lookup cut (i.text stop) rest) =
      some (spill lookup cut i.parts (i.after ++ stop :: rest)) := by
  rw [spill_text, h.before, h.reads.begins.skipGap_spill]

lemma readItems_text (hf : 2 * (spill lookup cut i.parts []).length ≤ fuel) {stop : Char}
    (hs : stop ∈ [',', ']']) (rest : List Char) :
    (skipGap false (spill lookup cut (i.text stop) rest)).bind (readItems (fuel + 1) depth) =
      if Fits lookup i.parts then
        if stop = ',' then
          ((skipGap false rest).bind (readItems fuel depth)).map fun r =>
            (i.filled lookup :: r.1, r.2)
        else some ([i.filled lookup], rest)
      else none := by
  have hstop : Ends (i.after ++ stop :: rest) := by
    apply h.after.quiet.ends_append
    apply ends_cons
    simp only [List.mem_cons] at hs ⊢
    tauto
  have hread := h.reads.reads fuel _ hf hstop
  -- No value begins with a bracket that closes, so the items do not end before this one.
  obtain ⟨c, qs, hp, hc⟩ := h.reads.begins
  rw [h.skipGap_text, Option.bind_some]
  rw [hp, spill] at hread ⊢
  rw [readItems, hread]
  · by_cases hfits : Fits lookup (.char c :: qs)
    · rw [if_pos hfits, if_pos hfits]
      show (skipGap false (i.after ++ stop :: rest)).bind _ = _
      rw [h.after]
      rcases List.mem_pair.mp hs with rfl | rfl
      · rw [if_pos rfl]
        show (skipGap false rest).bind _ = _
        cases skipGap false rest with
        | none => rfl
        | some t => cases hi : readItems fuel depth t <;> simp [hi, Item.filled]
      · rfl
    · rw [if_neg hfits, if_neg hfits]
      rfl
  · rintro t ⟨⟩
    simp at hc

end Item.IsRead

lemma readItems_array {depth : Nat} {gap : List Char} (hgap : IsGap gap) {last : Option Item}
    {items : List Item} (h : ∀ i ∈ items ++ last.toList, i.IsRead lookup cut depth) (fuel : Nat)
    (rest : List Char) (hf : 2 * (spill lookup cut (arrayText gap last items) []).length < fuel) :
    (skipGap false (spill lookup cut (arrayText gap last items) rest)).bind (readItems fuel depth) =
      if Fits lookup (arrayText gap last items) then
        some ((items ++ last.toList).map (Item.filled lookup), rest)
      else none := by
  obtain ⟨fuel, rfl⟩ : ∃ n, fuel = n + 1 := ⟨fuel - 1, by omega⟩
  induction items generalizing fuel with
  | nil =>
    cases last with
    | none =>
      rw [arrayText, if_pos (fits_chars _), spill_chars, List.append_assoc, hgap]
      rfl
    | some i =>
      have hlength : (spill lookup cut i.parts []).length ≤ _ := i.length_parts_le ']' []
      rw [List.append_nil] at hlength
      rw [arrayText] at hf ⊢
      rw [(h i (by simp)).readItems_text (by omega) (by simp)]
      simp
  | cons i items ih =>
    obtain ⟨hi, hitems⟩ := List.forall_mem_cons.mp h
    have hlength : (spill lookup cut i.parts []).length ≤ _ :=
      i.length_parts_le ',' (arrayText gap last items)
    rw [arrayText] at hf ⊢
    rw [spill_append, hi.readItems_text (by omega) (by simp), if_pos rfl]
    by_cases hfits : Fits lookup i.parts
    · -- The comma pays for the step that the item takes.
      have hrest : (spill lookup cut (arrayText gap last items) []).length < _ :=
        i.length_rest_lt ',' hfits
      obtain ⟨n, rfl⟩ : ∃ n, fuel = n + 1 := ⟨fuel - 1, by omega⟩
      rw [if_pos hfits, ih hitems n (by omega)]
      by_cases htail : Fits lookup (arrayText gap last items) <;> simp [hfits, htail]
    · simp [hfits]

structure Binding.IsRead (lookup : String → Option String) (cut : List Char) (depth : Nat)
    (b : Binding) : Prop where
  key : IsKeyText b.name b.key
  before : ∀ c ∈ b.item.before, isSpace c = true
  after : ∀ c ∈ b.item.after, isSpace c = true
  reads : Reads lookup cut depth b.item.parts b.item.value

def Binding.filled (lookup : String → Option String) (b : Binding) : List String × Value :=
  (b.key, b.item.filled lookup)

lemma skipSpace_append {g : List Char} (h : ∀ c ∈ g, isSpace c = true) (rest : List Char) :
    skipSpace (g ++ rest) = skipSpace rest :=
  List.dropWhile_append_of_pos h

namespace Binding

lemma spill_text (b : Binding) (stop : Char) (rest : List Char) :
    spill lookup cut (b.text stop) rest =
      b.name ++ '=' :: (b.item.before ++ spill lookup cut b.item.parts
        (b.item.after ++ stop :: rest)) := by
  rw [text, spill_append, spill_chars, Item.spill_text, List.append_assoc]
  rfl

@[simp] lemma fits_text (b : Binding) (stop : Char) :
    Fits lookup (b.text stop) ↔ Fits lookup b.item.parts := by
  rw [text, fits_append, Item.fits_text]
  simp

lemma length_parts_le (b : Binding) (stop : Char) (qs : List Part) :
    (spill lookup cut b.item.parts []).length ≤
      (spill lookup cut (b.text stop ++ qs) []).length := by
  have hle : (spill lookup cut b.item.parts []).length ≤ _ := b.item.length_parts_le stop qs
  rw [text, List.append_assoc, spill_append, spill_chars, List.length_append]
  omega

lemma length_rest_lt (b : Binding) (stop : Char) {qs : List Part}
    (h : Fits lookup b.item.parts) :
    (spill lookup cut qs []).length < (spill lookup cut (b.text stop ++ qs) []).length := by
  have hlt : (spill lookup cut qs []).length < _ := b.item.length_rest_lt stop h
  rw [text, List.append_assoc, spill_append, spill_chars, List.length_append]
  omega

namespace IsRead

variable {depth fuel : Nat} {b : Binding} (h : b.IsRead lookup cut depth)

include h

lemma readBindings_text (hf : 2 * (spill lookup cut b.item.parts []).length ≤ fuel) {stop : Char}
    (hs : stop ∈ [',', '\x7d']) (rest : List Char) :
    readBindings (fuel + 1) depth (spill lookup cut (b.text stop) rest) =
      if Fits lookup b.item.parts then
        if stop = ',' then
          (readBindings fuel depth rest).map fun r => (b.filled lookup :: r.1, r.2)
        else some ([b.filled lookup], rest)
      else none := by
  have hstop : Ends (b.item.after ++ stop :: rest) := by
    have hend : Ends (stop :: rest) := by
      apply ends_cons
      simp only [List.mem_cons] at hs ⊢
      tauto
    rwa [Ends, skipSpace_append h.after]
  have hread := h.reads.reads fuel _ hf hstop
  rw [spill_text, readBindings, h.key]
  show (readValue fuel depth (skipSpace (b.item.before ++ _))).bind _ = _
  rw [skipSpace_append h.before, h.reads.begins.skipSpace_spill, hread]
  by_cases hfits : Fits lookup b.item.parts
  · rw [if_pos hfits, if_pos hfits, Option.bind_some]
    simp only [skipSpace_append h.after]
    rcases List.mem_pair.mp hs with rfl | rfl
    · rw [if_pos rfl]
      show (readBindings fuel depth rest).bind _ = _
      cases readBindings fuel depth rest <;> rfl
    · rfl
  · rw [if_neg hfits, if_neg hfits]
    rfl

end IsRead

end Binding

lemma readBindings_table {depth : Nat} {last : Binding} {bindings : List Binding}
    (h : ∀ b ∈ bindings ++ [last], b.IsRead lookup cut depth) (fuel : Nat) (rest : List Char)
    (hf : 2 * (spill lookup cut (tableText last bindings) []).length < fuel) :
    readBindings fuel depth (spill lookup cut (tableText last bindings) rest) =
      if Fits lookup (tableText last bindings) then
        some ((bindings ++ [last]).map (Binding.filled lookup), rest)
      else none := by
  obtain ⟨fuel, rfl⟩ : ∃ n, fuel = n + 1 := ⟨fuel - 1, by omega⟩
  induction bindings generalizing fuel with
  | nil =>
    have hlength : (spill lookup cut last.item.parts []).length ≤ _ :=
      last.length_parts_le '\x7d' []
    rw [List.append_nil] at hlength
    rw [tableText] at hf ⊢
    rw [(h last (by simp)).readBindings_text (by omega) (by simp)]
    simp
  | cons b bindings ih =>
    obtain ⟨hb, hbindings⟩ := List.forall_mem_cons.mp h
    have hlength : (spill lookup cut b.item.parts []).length ≤ _ :=
      b.length_parts_le ',' (tableText last bindings)
    rw [tableText] at hf ⊢
    rw [spill_append, hb.readBindings_text (by omega) (by simp), if_pos rfl]
    by_cases hfits : Fits lookup b.item.parts
    · have hrest : (spill lookup cut (tableText last bindings) []).length < _ :=
        b.length_rest_lt ',' hfits
      obtain ⟨n, rfl⟩ : ∃ n, fuel = n + 1 := ⟨fuel - 1, by omega⟩
      rw [if_pos hfits, ih hbindings n (by omega)]
      by_cases htail : Fits lookup (tableText last bindings) <;> simp [hfits, htail]
    · simp [hfits]

lemma readValue_quote (fuel depth : Nat) (cs : List Char) :
    readValue (fuel + 1) depth ('"' :: cs) =
      (readText ('"' :: cs)).map fun r => (.text (String.ofList r.1), r.2) := by
  rw [readValue]
  · rfl
  all_goals simp

lemma readValue_bracket (fuel depth : Nat) (cs : List Char) :
    readValue (fuel + 1) (depth + 1) ('[' :: cs) =
      ((skipGap false cs).bind (readItems fuel depth)).map fun r => (.array r.1, r.2) := by
  rw [readValue]
  show (skipGap false cs).bind _ = _
  cases skipGap false cs with
  | none => rfl
  | some t =>
    rw [Option.bind_some, Option.bind_some]
    cases readItems fuel depth t <;> rfl

lemma readValue_brace (fuel depth : Nat) {cs : List Char}
    (h : (skipSpace cs).head? ≠ some '\x7d') :
    readValue (fuel + 1) (depth + 1) ('\x7b' :: cs) =
      (readBindings fuel depth (skipSpace cs)).bind fun r =>
        (Entries.ofBindings r.1).map fun entries => (.table .braces entries, r.2) := by
  rw [readValue]
  split
  · rename_i t ht
    rw [ht] at h
    exact absurd rfl h
  · show (readBindings fuel depth (skipSpace cs)).bind _ = _
    cases readBindings fuel depth (skipSpace cs) with
    | none => rfl
    | some r =>
      rw [Option.bind_some, Option.bind_some]
      cases ho : Entries.ofBindings r.1 <;> simp [ho]

lemma IsKeyText.head {cs : List Char} {key : List String} (h : IsKeyText cs key)
    (rest : List Char) : ∃ c t, skipSpace (cs ++ '=' :: rest) = c :: t ∧
      (c = '"' ∨ c = '\'' ∨ isBareKey c = true) := by
  have hread := h rest
  rw [readKey, mostDepth, readParts] at hread
  obtain ⟨r, hr, -⟩ := Option.bind_eq_some_iff.mp hread
  cases hs : skipSpace (cs ++ '=' :: rest) with
  | nil =>
    rw [hs] at hr
    cases hr
  | cons c t =>
    refine ⟨c, t, rfl, ?_⟩
    by_contra hc
    rw [not_or, not_or] at hc
    rw [hs, readKeyPart] at hr
    · simp [hc.2.2] at hr
    · rintro _ ⟨⟩
      exact hc.1 rfl
    · rintro _ ⟨⟩
      exact hc.2.1 rfl

lemma readBindings_skipSpace (fuel depth : Nat) (cs : List Char) :
    readBindings fuel depth (skipSpace cs) = readBindings fuel depth cs := by
  have hkey : readKey (skipSpace cs) = readKey cs := by
    have hspace : skipSpace (skipSpace cs) = skipSpace cs := List.dropWhile_idempotent _ _
    rw [readKey, readKey, mostDepth, readParts, readParts, hspace]
  cases fuel with
  | zero => rw [readBindings, readBindings]
  | succ fuel => rw [readBindings, readBindings, hkey]

lemma Ends.head?_ne {rest : List Char} (h : Ends rest) : rest.head? ≠ some '"' := by
  intro hq
  obtain ⟨t, rfl⟩ := List.head?_eq_some_iff.mp hq
  exact absurd (h '"' rfl) (by decide)

lemma mem_arrayText {gap : List Char} {last : Option Item} {items : List Item} {i : Item}
    (h : i ∈ items ++ last.toList) {p : Part} (hp : p ∈ i.parts) :
    p ∈ arrayText gap last items := by
  have htext (stop : Char) : p ∈ i.text stop := by simp [Item.text, hp]
  induction items with
  | nil =>
    obtain rfl := Option.mem_toList.mp h
    exact htext ']'
  | cons j items ih =>
    rcases List.mem_cons.mp h with rfl | h
    · exact List.mem_append_left _ (htext ',')
    · exact List.mem_append_right _ (ih h)

lemma mem_tableText {last : Binding} {bindings : List Binding} {b : Binding}
    (h : b ∈ bindings ++ [last]) {p : Part} (hp : p ∈ b.item.parts) :
    p ∈ tableText last bindings := by
  have htext (stop : Char) : p ∈ b.text stop := by simp [Binding.text, Item.text, hp]
  induction bindings with
  | nil =>
    obtain rfl := List.mem_singleton.mp h
    exact htext '\x7d'
  | cons c bindings ih =>
    rcases List.mem_cons.mp h with rfl | h
    · exact List.mem_append_left _ (htext ',')
    · exact List.mem_append_right _ (ih h)

lemma head?_tableText {depth : Nat} {last : Binding} {bindings : List Binding}
    (h : ∀ b ∈ bindings ++ [last], b.IsRead lookup cut depth) (rest : List Char) :
    (skipSpace (spill lookup cut (tableText last bindings) rest)).head? ≠ some '\x7d' := by
  have hname : ∃ b ∈ bindings ++ [last], ∃ t,
      spill lookup cut (tableText last bindings) rest = b.name ++ '=' :: t := by
    cases bindings with
    | nil => exact ⟨last, by simp, _, last.spill_text '\x7d' rest⟩
    | cons b bindings =>
      have htext : spill lookup cut (b.text ',' ++ tableText last bindings) rest = _ :=
        spill_append _ _ rest
      exact ⟨b, by simp, _, htext.trans (b.spill_text ',' _)⟩
  obtain ⟨b, hb, t, ht⟩ := hname
  obtain ⟨c, u, hc, hkey⟩ := (h b hb).key.head t
  rw [ht, hc]
  rintro ⟨⟩
  exact absurd hkey (by decide)

lemma Written.begins {depth : Nat} {ps : List Part} {v : Value} (h : Written depth ps v) :
    Begins ps := by
  cases h with
  | plain hcs => exact hcs.begins
  | quoted => exact ⟨_, _, rfl, by decide⟩
  | array => exact ⟨_, _, rfl, by decide⟩
  | table => exact ⟨_, _, rfl, by decide⟩

lemma Written.reads {depth : Nat} {ps : List Part} {v : Value} (h : Written depth ps v)
    (ht : Tame lookup ps) (hcut : Breaks cut) : Reads lookup cut depth ps v := by
  induction h with
  | @plain depth cs v hcs =>
    refine ⟨hcs.begins, ?_⟩
    intro fuel rest hf hrest
    rw [spill_chars, List.append_nil] at hf
    rw [spill_chars, hcs.reads fuel rest hf hrest, if_pos (fits_chars cs),
      Value.mapTexts_inverse Template.fill_ofText]
  | @quoted depth ps ts hq =>
    refine ⟨⟨_, _, rfl, by decide⟩, ?_⟩
    intro fuel rest hf hrest
    obtain ⟨n, rfl⟩ : ∃ n, fuel = n + 1 := ⟨fuel - 1, by rw [spill, List.length_cons] at hf; omega⟩
    have hps : Tame lookup ps := fun p hp => ht p (by simp [hp])
    have hquote := hrest.head?_ne
    rw [spill, spill_append, spill, spill, readValue_quote, hq.readText_spill hps hcut hquote,
      Value.mapTexts, Template.fill_ofParts hq.closed]
    by_cases hfits : Fits lookup ps <;> simp [hfits]
  | @array depth items last gap hgap hbefore hafter _ ih =>
    refine ⟨⟨_, _, rfl, by decide⟩, ?_⟩
    intro fuel rest hf hrest
    have hread : ∀ i ∈ items ++ last.toList, i.IsRead lookup cut depth := by
      intro i hi
      refine ⟨hbefore i hi, hafter i hi, ih i hi ?_⟩
      exact fun p hp => ht p (List.mem_cons_of_mem _ (mem_arrayText hi hp))
    rw [spill, List.length_cons] at hf
    obtain ⟨n, rfl⟩ : ∃ n, fuel = n + 1 := ⟨fuel - 1, by omega⟩
    rw [spill, readValue_bracket, readItems_array hgap hread n rest (by omega)]
    have hvalues : ((items ++ last.toList).map Item.value).map (Value.mapTexts _) =
        (items ++ last.toList).map (Item.filled lookup) := List.map_map
    rw [Value.mapTexts, mapItems_eq, hvalues]
    by_cases hfits : Fits lookup (arrayText gap last items) <;> simp [hfits]
  | @table depth bindings last entries hkeys hspaces _ hentries ih =>
    refine ⟨⟨_, _, rfl, by decide⟩, ?_⟩
    intro fuel rest hf hrest
    have hread : ∀ b ∈ bindings ++ [last], b.IsRead lookup cut depth := by
      intro b hb
      refine ⟨hkeys b hb, fun c hc => hspaces b hb c (List.mem_append_left _ hc),
        fun c hc => hspaces b hb c (List.mem_append_right _ hc), ih b hb ?_⟩
      exact fun p hp => ht p (List.mem_cons_of_mem _ (mem_tableText hb hp))
    rw [spill, List.length_cons] at hf
    obtain ⟨n, rfl⟩ : ∃ n, fuel = n + 1 := ⟨fuel - 1, by omega⟩
    have hfilled : Entries.ofBindings ((bindings ++ [last]).map (Binding.filled lookup)) =
        some (mapEntries (Template.fill lookup) entries) := by
      have hmap := Entries.ofBindings_mapTexts (Template.fill lookup)
        ((bindings ++ [last]).map fun b => (b.key, b.item.value))
      rw [hentries, List.map_map] at hmap
      exact hmap
    rw [spill, readValue_brace n depth (head?_tableText hread rest), readBindings_skipSpace,
      readBindings_table hread n rest (by omega), Value.mapTexts]
    by_cases hfits : Fits lookup (tableText last bindings)
    · rw [if_pos hfits, Option.bind_some, hfilled, if_pos ((fits_char _).mpr hfits)]
      rfl
    · rw [if_neg hfits, if_neg (mt (fits_char _).mp hfits)]
      rfl

end TurnTaking.Toml
