import Mathlib.Data.List.Forall2
import Mathlib.Tactic.Common
import TurnTaking.Json.Decode
import TurnTaking.Json.Write

/-!
A written text is scanned to a token that spells it, and a written value to an outline of its parts.
-/

namespace TurnTaking.Json

namespace TextPiece

def ofChar (c : Char) : TextPiece :=
  if c.toNat < 32 ∧ c ∉ ['\x08', '\x0c', '\n', '\r', '\t'] then .unit c.toNat else .char c

end TextPiece

namespace TextToken

def ofText (s : String) : TextToken := ⟨s.toList.map .ofChar, .closed⟩

lemma scan_quote (cs : List Char) : scan ('"' :: cs) = (empty .closed, some cs) := by
  rw [scan.eq_def]
  rfl

lemma scan_plain {c : Char} (hq : c ≠ '"') (hb : c ≠ '\\') (hc : ¬c.toNat < 32) (cs : List Char) :
    scan (c :: cs) = (cons (.char c) (scan cs).1, (scan cs).2) := by
  rw [scan.eq_def]
  simp [hq, hb, hc]

lemma scan_escape {e c : Char} (he : e ≠ 'u') (hc : escaped? e = some c) (cs : List Char) :
    scan ('\\' :: e :: cs) = (cons (.char c) (scan cs).1, (scan cs).2) := by
  rw [scan.eq_def]
  simp [he, hc]

lemma scan_unit {ds : List Char} {n : Nat} (hd : ds.length = 4) (hn : Text.hexValue? ds = some n)
    (cs : List Char) :
    scan ('\\' :: 'u' :: (ds ++ cs)) = (cons (.unit n) (scan cs).1, (scan cs).2) := by
  match ds, hd with
  | [a, b, c, d], _ =>
    rw [scan.eq_def]
    simp [hn]

lemma paddedHex_of_control {n : Nat} (h : n < 32) :
    (Text.paddedHex 4 n).length = 4 ∧ Text.hexValue? (Text.paddedHex 4 n) = some n := by
  have hall : ∀ n < 32,
      (Text.paddedHex 4 n).length = 4 ∧ Text.hexValue? (Text.paddedHex 4 n) = some n := by decide
  exact hall n h

lemma escapedChar_of_mem {c : Char} (h : c ∈ ['"', '\\', '\x08', '\x0c', '\n', '\r', '\t']) :
    ∃ e, escapedChar c = ['\\', e] ∧ e ≠ 'u' ∧ escaped? e = some c ∧
      TextPiece.ofChar c = .char c := by
  have hall : ∀ c ∈ ['"', '\\', '\x08', '\x0c', '\n', '\r', '\t'],
      ∃ e, escapedChar c = ['\\', e] ∧ e ≠ 'u' ∧ escaped? e = some c ∧
        TextPiece.ofChar c = .char c := by
    simp only [List.forall_mem_cons]
    exact ⟨⟨'"', rfl, by decide, rfl, rfl⟩, ⟨'\\', rfl, by decide, rfl, rfl⟩,
      ⟨'b', rfl, by decide, rfl, rfl⟩, ⟨'f', rfl, by decide, rfl, rfl⟩,
      ⟨'n', rfl, by decide, rfl, rfl⟩, ⟨'r', rfl, by decide, rfl, rfl⟩,
      ⟨'t', rfl, by decide, rfl, rfl⟩, by simp⟩
  exact hall c h

lemma scan_escapedChar (c : Char) (cs : List Char) :
    scan (escapedChar c ++ cs) = (cons (.ofChar c) (scan cs).1, (scan cs).2) := by
  by_cases hs : c ∈ ['"', '\\', '\x08', '\x0c', '\n', '\r', '\t']
  · obtain ⟨e, hc, hu, he, hp⟩ := escapedChar_of_mem hs
    rw [hc, hp]
    exact scan_escape hu he cs
  · simp only [List.mem_cons, List.not_mem_nil, or_false, not_or] at hs
    obtain ⟨hq, hb, h8, hf, hn, hr, ht⟩ := hs
    by_cases hc : c.toNat < 32
    · obtain ⟨hl, hv⟩ := paddedHex_of_control hc
      have hp : TextPiece.ofChar c = .unit c.toNat := by
        simp [TextPiece.ofChar, hc, h8, hf, hn, hr, ht]
      simp only [escapedChar, hq, hb, h8, hf, hn, hr, ht, hc, hp, if_true, if_false]
      exact scan_unit hl hv cs
    · have hp : TextPiece.ofChar c = .char c := by simp [TextPiece.ofChar, hc]
      simp only [escapedChar, hq, hb, h8, hf, hn, hr, ht, hc, hp, if_false]
      exact scan_plain hq hb hc cs

lemma scan_writeText (s : String) (rest : List Char) :
    scan (s.toList.flatMap escapedChar ++ '"' :: rest) = (ofText s, some rest) := by
  rw [ofText]
  induction s.toList with
  | nil => exact scan_quote rest
  | cons c cs ih =>
    rw [List.flatMap_cons, List.append_assoc, scan_escapedChar, ih]
    rfl

lemma decodePieces_ofChar (cs : List Char) :
    decodePieces .closed (cs.map .ofChar) = .ok cs := by
  induction cs with
  | nil => rfl
  | cons c cs ih =>
    rw [List.map_cons, TextPiece.ofChar]
    split
    · rename_i h
      -- A control character is written as a unit, and no surrogate is that small.
      have ht : isTrailing c.toNat = false := by
        simp only [isTrailing, Bool.and_eq_false_iff, decide_eq_false_iff_not]
        omega
      have hl : isLeading c.toNat = false := by
        simp only [isLeading, Bool.and_eq_false_iff, decide_eq_false_iff_not]
        omega
      rw [decodePieces.eq_def]
      simp [ht, hl, ih, Except.map]
    · rw [decodePieces, ih]
      rfl

@[simp] lemma decode_ofText (s : String) : (ofText s).decode = .ok s := by
  rw [decode, ofText, decodePieces_ofChar]
  exact congrArg Except.ok String.ofList_toList

end TextToken

/-- What may stand after a value. A number comes to its end only there. -/
def Delimited (rest : List Char) : Prop := ∀ c ∈ rest.head?, c ∈ [',', ']', '\x7d']

lemma delimited_nil : Delimited [] := by
  simp [Delimited]

lemma delimited_cons {c : Char} (h : c ∈ [',', ']', '\x7d']) (rest : List Char) :
    Delimited (c :: rest) := by
  simpa [Delimited] using h

def Outlined (j : Json) (o : Outline) : Prop :=
  ∀ n rest, 2 * j.write.length ≤ n → Delimited rest →
    Outline.scan n (j.write ++ rest) = (o, some rest)

lemma outlined_null : Outlined .null .null := by
  intro n rest hn _
  cases n with
  | zero => cases hn
  | succ n => rfl

lemma outlined_boolean (b : Bool) : Outlined (.boolean b) (.boolean b) := by
  intro n rest hn _
  cases n with
  | zero => cases b <;> cases hn
  | succ n => cases b <;> rfl

lemma outlined_text (s : String) : Outlined (.text s) (.text (.ofText s)) := by
  intro n rest hn _
  have hs := TextToken.scan_writeText s rest
  cases n with
  | zero => simp [write, writeText] at hn
  | succ n =>
    simp only [write, writeText, List.cons_append, List.append_assoc, List.nil_append]
    rw [Outline.scan]
    simp [skipSpace, isSpace, hs]

namespace Outline

lemma scanMemberValue_colon (n : Nat) (cs : List Char) :
    scanMemberValue (n + 1) (':' :: cs) = scan n cs := by
  rw [scanMemberValue]
  rfl

lemma scanMembers_last {n : Nat} {cs rest : List Char} {o : Outline}
    (h : scan n cs = (o, some ('\x7d' :: rest))) (k : String) :
    scanMembers (n + 2) (writeText k ++ ':' :: cs) =
      (([(some (.ofText k), o)], .closed), some rest) := by
  have hk := TextToken.scan_writeText k (':' :: cs)
  simp only [writeText, List.cons_append, List.append_assoc, List.nil_append]
  rw [scanMembers]
  simp [hk, scanMemberValue_colon, h, skipSpace, isSpace]

lemma scanMembers_comma {n : Nat} {cs rest : List Char} {o : Outline}
    (h : scan n cs = (o, some (',' :: '"' :: rest))) (k : String) :
    scanMembers (n + 2) (writeText k ++ ':' :: cs) =
      let (found, after) := scanMembers (n + 1) ('"' :: rest)
      (((some (.ofText k), o) :: found.1, found.2), after) := by
  have hk := TextToken.scan_writeText k (':' :: cs)
  simp only [writeText, List.cons_append, List.append_assoc, List.nil_append]
  rw [scanMembers]
  simp [hk, scanMemberValue_colon, h, skipSpace, isSpace]

end Outline

def MemberOutlined (m : String × Json) (o : Option TextToken × Outline) : Prop :=
  o.1 = some (.ofText m.1) ∧ Outlined m.2 o.2

lemma memberOutlined {x : Json} {o : Outline} (h : Outlined x o) (key : String) :
    MemberOutlined (key, x) (some (.ofText key), o) :=
  ⟨rfl, h⟩

lemma exists_writeMembers (m : String × Json) (ms : List (String × Json)) :
    ∃ rest, writeMembers (m :: ms) = '"' :: rest := by
  cases ms with
  | nil => exact ⟨_, by rw [writeMembers, writeText, List.cons_append]⟩
  | cons m ms => exact ⟨_, by rw [writeMembers, writeText, List.cons_append]⟩

lemma two_le_length_writeText (s : String) : 2 ≤ (writeText s).length := by
  simp [writeText]

lemma scanMembers_write {members : List (String × Json)}
    {os : List (Option TextToken × Outline)} (h : List.Forall₂ MemberOutlined members os)
    (hne : members ≠ []) {n : Nat} (hn : 2 * (writeMembers members).length ≤ n)
    (rest : List Char) :
    Outline.scanMembers n (writeMembers members ++ '\x7d' :: rest) =
      ((os, .closed), some rest) := by
  induction h generalizing n with
  | nil => exact absurd rfl hne
  | @cons m o members os hm hms ih =>
    obtain ⟨k, x⟩ := m
    obtain ⟨key, value⟩ := o
    obtain ⟨hk, hx : Outlined x value⟩ := hm
    obtain rfl : key = some (.ofText k) := hk
    have hkl := two_le_length_writeText k
    cases members with
    | nil =>
      cases hms
      simp only [writeMembers, List.length_append, List.length_cons] at hn
      obtain ⟨n, rfl⟩ : ∃ n', n = n' + 2 := ⟨n - 2, by omega⟩
      have hv := hx n ('\x7d' :: rest) (by omega) (delimited_cons (by simp) rest)
      simpa only [writeMembers, List.append_assoc, List.cons_append]
        using Outline.scanMembers_last hv k
    | cons m' members =>
      obtain ⟨next, hnext⟩ := exists_writeMembers m' members
      simp only [writeMembers, List.length_append, List.length_cons] at hn
      obtain ⟨n, rfl⟩ : ∃ n', n = n' + 2 := ⟨n - 2, by omega⟩
      have hv := hx n (',' :: (writeMembers (m' :: members) ++ '\x7d' :: rest)) (by omega)
        (delimited_cons (by simp) _)
      have hrest := ih (n := n + 1) (by simp) (by omega)
      rw [hnext, List.cons_append] at hv hrest
      have hm := Outline.scanMembers_comma hv k
      rw [hrest] at hm
      simpa only [writeMembers, hnext, List.append_assoc, List.cons_append] using hm

lemma outlined_object {members : List (String × Json)} {os : List (Option TextToken × Outline)}
    (h : List.Forall₂ MemberOutlined members os) :
    Outlined (.object members) (.object os .closed) := by
  intro n rest hn _
  cases n with
  | zero => simp [write] at hn
  | succ n =>
    simp only [write, List.cons_append, List.append_assoc, List.nil_append]
    rw [Outline.scan]
    cases members with
    | nil =>
      cases h
      simp [writeMembers, skipSpace, isSpace]
    | cons m members =>
      simp only [write, List.length_cons, List.length_append] at hn
      have hm := scanMembers_write h (by simp) (n := n) (by omega) rest
      obtain ⟨next, hnext⟩ := exists_writeMembers m members
      rw [hnext, List.cons_append] at hm ⊢
      simp [skipSpace, isSpace, hm]

def BeginsItem (cs : List Char) : Prop :=
  ∃ c rest, cs = c :: rest ∧ isSpace c = false ∧ c ≠ ']'

namespace Outline

lemma scanItems_last {n : Nat} {cs rest : List Char} {o : Outline}
    (h : scan n cs = (o, some (']' :: rest))) :
    scanItems (n + 1) cs = (([o], .closed), some rest) := by
  rw [scanItems]
  simp [h, skipSpace, isSpace]

lemma scanItems_comma {n : Nat} {cs rest : List Char} {o : Outline} (hb : BeginsItem rest)
    (h : scan n cs = (o, some (',' :: rest))) :
    scanItems (n + 1) cs =
      let (found, after) := scanItems n rest
      ((o :: found.1, found.2), after) := by
  obtain ⟨c, rest, rfl, hs, hc⟩ := hb
  have hcomma : isSpace ',' = false := by decide
  rw [scanItems]
  simp [h, skipSpace, hcomma, hs, hc]

end Outline

def ItemOutlined (x : Json) (o : Outline) : Prop :=
  BeginsItem x.write ∧ Outlined x o

lemma itemOutlined_text (s : String) : ItemOutlined (.text s) (.text (.ofText s)) :=
  ⟨⟨'"', _, rfl, rfl, by decide⟩, outlined_text s⟩

lemma BeginsItem.append {cs : List Char} (h : BeginsItem cs) (ds : List Char) :
    BeginsItem (cs ++ ds) := by
  obtain ⟨c, rest, rfl, hc⟩ := h
  exact ⟨c, rest ++ ds, rfl, hc⟩

lemma beginsItem_writeItems {items : List Json} {os : List Outline}
    (h : List.Forall₂ ItemOutlined items os) (hne : items ≠ []) :
    BeginsItem (writeItems items) := by
  cases h with
  | nil => exact absurd rfl hne
  | @cons x o items os hx _ =>
    cases items with
    | nil => simpa only [writeItems] using hx.1
    | cons y items => simpa only [writeItems] using hx.1.append _

lemma scanItems_write {items : List Json} {os : List Outline}
    (h : List.Forall₂ ItemOutlined items os) (hne : items ≠ []) {n : Nat}
    (hn : 2 * (writeItems items).length < n) (rest : List Char) :
    Outline.scanItems n (writeItems items ++ ']' :: rest) = ((os, .closed), some rest) := by
  induction h generalizing n with
  | nil => exact absurd rfl hne
  | @cons x o items os hx hxs ih =>
    obtain ⟨n, rfl⟩ : ∃ n', n = n' + 1 := ⟨n - 1, by omega⟩
    cases items with
    | nil =>
      cases hxs
      simp only [writeItems] at hn ⊢
      exact Outline.scanItems_last (hx.2 n (']' :: rest) (by omega) (delimited_cons (by simp) rest))
    | cons y items =>
      simp only [writeItems, List.length_append, List.length_cons] at hn
      have hv := hx.2 n (',' :: (writeItems (y :: items) ++ ']' :: rest)) (by omega)
        (delimited_cons (by simp) _)
      have hb := (beginsItem_writeItems hxs (by simp)).append (']' :: rest)
      have hrest := ih (n := n) (by simp) (by omega)
      have hm := Outline.scanItems_comma hb hv
      rw [hrest] at hm
      simpa only [writeItems, List.append_assoc, List.cons_append] using hm

lemma outlined_list {items : List Json} {os : List Outline}
    (h : List.Forall₂ ItemOutlined items os) : Outlined (.list items) (.list os .closed) := by
  intro n rest hn _
  cases n with
  | zero => simp [write] at hn
  | succ n =>
    simp only [write, List.cons_append, List.append_assoc, List.nil_append]
    rw [Outline.scan]
    cases items with
    | nil =>
      cases h
      simp [writeItems, skipSpace, isSpace]
    | cons x items =>
      simp only [write, List.length_cons, List.length_append] at hn
      have hm := scanItems_write h (by simp) (n := n) (by omega) rest
      obtain ⟨c, cs, hc, hs, hne⟩ := beginsItem_writeItems h (by simp)
      rw [hc, List.cons_append] at hm ⊢
      have hopen : isSpace '[' = false := by decide
      simp [skipSpace, hopen, hs, hne, hm]

lemma readWith_toLine {α : Type} (d : Decoder α) {j : Json} {o : Outline} (h : Outlined j o) :
    readWith d j.toLine = d o := by
  have hs : Outline.ofText j.toLine = (o, some []) := by
    rw [Outline.ofText, toLine, String.toList_ofList]
    simpa using h (2 * j.write.length + 2) [] (by omega) delimited_nil
  rw [readWith, hs]
  cases hd : d o with
  | error fault => simp [hd, bind, Except.bind]
  | ok x => simp [hd, bind, Except.bind, skipSpace]

namespace Record

variable {σ α : Type} {r : Record σ α} {s s' : σ} {f : Field σ} {key : String}

lemma readMember_ofText (hf : r.fields.find? (fun f => f.name == key) = some f)
    (hs : f.isFilled s = false) (value : Outline) :
    r.readMember s (some (.ofText key), value) = f.fill value s := by
  simp [readMember, hf, hs, bind, Except.bind]

lemma foldlM_readMember {m : Option TextToken × Outline} (h : r.readMember s m = .ok s')
    (ms : List (Option TextToken × Outline)) :
    (m :: ms).foldlM r.readMember s = ms.foldlM r.readMember s' := by
  rw [List.foldlM_cons, h]
  rfl

lemma readWith_object {members : List (String × Json)} {os : List (Option TextToken × Outline)}
    (h : List.Forall₂ MemberOutlined members os) (hr : os.foldlM r.readMember r.start = .ok s) :
    readWith r.decode (Json.object members).toLine = r.finish s := by
  rw [readWith_toLine r.decode (outlined_object h), decode, hr]
  rfl

end Record

end TurnTaking.Json
