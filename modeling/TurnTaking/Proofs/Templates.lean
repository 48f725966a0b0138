import TurnTaking.Proofs.WrittenValues

/-! Documents that are written with expressions in their quoted values, line by line. -/

namespace TurnTaking.Toml

variable {lookup : String → Option String} {cut : List Char}

def IsLineEnd (e : List Char) : Prop :=
  skipLine false e = some [] ∧ ∀ rest, skipLine false (e ++ '\n' :: rest) = some rest

lemma IsLineEnd.quiet {e : List Char} (h : IsLineEnd e) : Quiet e := by
  induction e with
  | nil => simp [Quiet, skipSpace]
  | cons c e ih =>
    by_cases hmark : c = '#' ∨ c = '\n'
    · exact quiet_cons_mark hmark
    · rw [not_or] at hmark
      have hskip (rest : List Char) : skipLine false (c :: rest) =
          if isSpace c then skipLine false rest else none := by
        rw [skipLine]
        simp [hmark.1, hmark.2]
      by_cases hc : isSpace c = true
      · apply quiet_cons_space hc
        apply ih
        refine ⟨?_, ?_⟩
        · rw [← h.1, hskip, if_pos hc]
        · intro rest
          rw [← h.2 rest, List.cons_append, hskip, if_pos hc]
      · have hnil := h.1
        rw [hskip, if_neg hc] at hnil
        cases hnil

structure IsStatementText (cs : List Char) (s : Statement) : Prop where
  begins : Begins (cs.map .char)
  reads : ∀ (fuel : Nat) (rest : List Char), 2 * cs.length ≤ fuel → Ends rest →
    readStatement fuel (cs ++ rest) = some (s, rest)

inductive WrittenStatement : List Part → Statement → Prop
  | plain {cs : List Char} {s : Statement} :
      IsStatementText cs s → WrittenStatement (cs.map .char) (s.mapTexts Template.ofText)
  | binding {name before : List Char} {key : List String} {ps : List Part} {v : Value} :
      IsKeyText name key → (∀ c ∈ name.head?, isSpace c = false) →
      (∀ c ∈ before, isSpace c = true) → Written mostDepth ps v →
      WrittenStatement ((name ++ '=' :: before).map .char ++ ps) (.binding key v)

namespace WrittenStatement

lemma head?_name {name : List Char} {key : List String} (hkey : IsKeyText name key)
    (hname : ∀ c ∈ name.head?, isSpace c = false) :
    ∃ c t, name = c :: t ∧ (c = '"' ∨ c = '\'' ∨ isBareKey c = true) := by
  obtain ⟨c, t, hc, hmark⟩ := hkey.head []
  cases name with
  | nil =>
    obtain ⟨rfl, -⟩ := List.cons.inj hc
    exact absurd hmark (by decide)
  | cons d name =>
    rw [List.cons_append, skipSpace, List.dropWhile_cons_of_neg (by simp [hname d rfl])] at hc
    obtain ⟨rfl, -⟩ := List.cons.inj hc
    exact ⟨d, name, rfl, hmark⟩

variable {ps : List Part} {s : Statement}

lemma begins (h : WrittenStatement ps s) : Begins ps := by
  cases h with
  | plain hcs => exact hcs.begins
  | binding hkey hname =>
    obtain ⟨c, t, rfl, hmark⟩ := head?_name hkey hname
    refine ⟨c, _, rfl, ?_⟩
    simp only [List.mem_cons, List.not_mem_nil, or_false]
    rintro (rfl | rfl | rfl | rfl | rfl) <;> exact absurd hmark (by decide)

lemma reads (h : WrittenStatement ps s) (ht : Tame lookup ps) (hcut : Breaks cut) (fuel : Nat)
    (rest : List Char) (hf : 2 * (spill lookup cut ps []).length ≤ fuel) (hrest : Ends rest) :
    readStatement fuel (spill lookup cut ps rest) =
      if Fits lookup ps then some (s.mapTexts (Template.fill lookup), rest) else none := by
  cases h with
  | @plain cs s hcs =>
    rw [spill_chars, List.append_nil] at hf
    rw [spill_chars, hcs.reads fuel rest hf hrest, if_pos (fits_chars cs),
      Statement.mapTexts_inverse Template.fill_ofText]
  | @binding name before key ps v hkey hname hbefore hv =>
    have hps := hv.reads (tame_append.mp ht).2 hcut
    rw [spill_append, spill_chars, List.append_assoc, List.cons_append] at hf ⊢
    have hread := hkey (before ++ spill lookup cut ps rest)
    obtain ⟨c, t, rfl, hmark⟩ := head?_name hkey hname
    rw [List.cons_append] at hread ⊢
    have hbracket : c ≠ '[' := by
      rintro rfl
      exact absurd hmark (by decide)
    rw [readStatement, hread]
    · show (readValue fuel mostDepth (skipSpace (before ++ spill lookup cut ps rest))).bind _ = _
      have hlength : 2 * (spill lookup cut ps []).length ≤ fuel := by
        simp only [List.length_append, List.length_cons] at hf
        omega
      rw [skipSpace_append hbefore, hps.begins.skipSpace_spill, hps.reads fuel rest hlength hrest]
      by_cases hfits : Fits lookup ps <;> simp [hfits, Statement.mapTexts]
    all_goals
      intro u hu
      exact hbracket (List.cons.inj hu).1

end WrittenStatement

inductive WrittenStatements : List Part → List Statement → Prop
  | gap {g : List Char} : skipGap false g = some [] → WrittenStatements (g.map .char) []
  | last {g e : List Char} {ps : List Part} {s : Statement} :
      IsGap g → WrittenStatement ps s → IsLineEnd e →
      WrittenStatements (g.map .char ++ (ps ++ e.map .char)) [s]
  | line {g e : List Char} {ps qs : List Part} {s : Statement} {ss : List Statement} :
      IsGap g → WrittenStatement ps s → IsLineEnd e → WrittenStatements qs ss →
      WrittenStatements (g.map .char ++ (ps ++ ((e ++ ['\n']).map .char ++ qs))) (s :: ss)

lemma WrittenStatement.readStatements {ps : List Part} {s : Statement} (h : WrittenStatement ps s)
    (ht : Tame lookup ps) (hcut : Breaks cut) {g : List Char} (hg : IsGap g) (fuel n : Nat)
    (rest : List Char) (hf : 2 * (spill lookup cut ps []).length ≤ fuel) (hrest : Ends rest) :
    readStatements fuel (n + 1) (g ++ spill lookup cut ps rest) =
      if Fits lookup ps then
        (skipLine false rest).bind fun t =>
          (Toml.readStatements fuel n t).map (s.mapTexts (Template.fill lookup) :: ·)
      else none := by
  have hread := h.reads ht hcut fuel rest hf hrest
  rw [Toml.readStatements, hg, h.begins.skipGap_spill]
  obtain ⟨c, qs, rfl, -⟩ := h.begins
  rw [spill] at hread ⊢
  show (readStatement fuel (c :: spill lookup cut qs rest)).bind _ = _
  rw [hread]
  by_cases hfits : Fits lookup (.char c :: qs)
  · rw [if_pos hfits, if_pos hfits, Option.bind_some]
    show (skipLine false rest).bind _ = _
    congr 1
    funext t
    cases Toml.readStatements fuel n t <;> rfl
  · rw [if_neg hfits, if_neg hfits]
    rfl

lemma WrittenStatements.reads {ps : List Part} {ss : List Statement} (h : WrittenStatements ps ss)
    (ht : Tame lookup ps) (hcut : Breaks cut) (fuel n : Nat)
    (hf : 2 * (spill lookup cut ps []).length ≤ fuel) (hn : (spill lookup cut ps []).length < n) :
    readStatements fuel n (spill lookup cut ps []) =
      if Fits lookup ps then some (ss.map (Statement.mapTexts (Template.fill lookup)))
      else none := by
  obtain ⟨n, rfl⟩ : ∃ m, n = m + 1 := ⟨n - 1, by omega⟩
  -- The steps stay above what is left of the text: every line has a character.
  induction h generalizing n with
  | @gap g hg =>
    rw [spill_chars, List.append_nil, readStatements, hg, if_pos (fits_chars g)]
    rfl
  | @last g e ps s hg hs he =>
    have hps := (tame_append.mp (tame_append.mp ht).2).1
    have hend : Ends (e ++ []) := he.quiet.ends_append (by simp [Ends, skipSpace])
    have hle : (spill lookup cut ps []).length ≤ _ := length_spill_le ps (e.map .char)
    have hpos : 0 < (spill lookup cut (ps ++ e.map .char) []).length := hs.begins.length_pos _
    rw [spill_append, spill_chars] at hf hn ⊢
    rw [List.length_append] at hf hn
    obtain ⟨n, rfl⟩ : ∃ m, n = m + 1 := ⟨n - 1, by omega⟩
    rw [spill_append, spill_chars,
      hs.readStatements hps hcut hg fuel (n + 1) (e ++ []) (by omega) hend, List.append_nil, he.1]
    by_cases hfits : Fits lookup ps <;> simp [hfits, readStatements, skipGap]
  | @line g e ps qs s ss hg hs he _ ih =>
    obtain ⟨-, hrest⟩ := tame_append.mp ht
    obtain ⟨hps, hrest⟩ := tame_append.mp hrest
    have hqs := (tame_append.mp hrest).2
    have hend (rest : List Char) : Ends (e ++ '\n' :: rest) :=
      he.quiet.ends_append (ends_cons (by simp) rest)
    have hle : (spill lookup cut ps []).length ≤ _ :=
      length_spill_le ps ((e ++ ['\n']).map .char ++ qs)
    rw [spill_append, spill_chars] at hf hn ⊢
    rw [List.length_append] at hf hn
    rw [spill_append, spill_append, spill_chars, List.append_assoc, List.singleton_append,
      hs.readStatements hps hcut hg fuel n _ (by omega) (hend _), he.2, Option.bind_some]
    by_cases hfits : Fits lookup ps
    · have hlt : (spill lookup cut qs []).length + 1 ≤
          (spill lookup cut (ps ++ ((e ++ ['\n']).map .char ++ qs)) []).length := by
        rw [length_spill_append hfits, spill_append, spill_chars]
        simp
        omega
      obtain ⟨n, rfl⟩ : ∃ m, n = m + 1 := ⟨n - 1, by omega⟩
      rw [ih hqs (by omega) n (by omega)]
      by_cases hqfits : Fits lookup qs <;> simp [hfits, hqfits]
    · simp [hfits]

def unifyParts : List Part → List Part
  | .char '\r' :: .char '\n' :: ps => .char '\n' :: unifyParts ps
  | p :: ps => p :: unifyParts ps
  | [] => []

def dropMarkPart : List Part → List Part
  | .char c :: ps => if c = byteOrderMark then ps else .char c :: ps
  | ps => ps

lemma unifyLineEnds_cons {c : Char} {cs : List Char} (h : ¬ (c = '\r' ∧ cs.head? = some '\n')) :
    unifyLineEnds (c :: cs) = c :: unifyLineEnds cs := by
  rw [unifyLineEnds]
  rintro t rfl rfl
  exact h ⟨rfl, rfl⟩

lemma unifyLineEnds_append {cs : List Char} (h : ∀ c ∈ cs, isPlain c = true) (rest : List Char) :
    unifyLineEnds (cs ++ rest) = cs ++ unifyLineEnds rest := by
  induction cs with
  | nil => rfl
  | cons c cs ih =>
    obtain ⟨hc, hcs⟩ := List.forall_mem_cons.mp h
    have hr : c ≠ '\r' := by
      rintro rfl
      exact absurd hc (by decide)
    rw [List.cons_append, unifyLineEnds_cons (fun hn => hr hn.1), ih hcs, List.cons_append]

lemma breaks_unifyLineEnds {cs : List Char} (h : Breaks cs) : Breaks (unifyLineEnds cs) := by
  obtain ⟨c, t, rfl, hc⟩ := h
  by_cases hend : c = '\r' ∧ t.head? = some '\n'
  · obtain ⟨rfl, ht⟩ := hend
    obtain ⟨u, rfl⟩ := List.head?_eq_some_iff.mp ht
    exact ⟨'\n', unifyLineEnds u, rfl, by decide⟩
  · exact ⟨c, unifyLineEnds t, unifyLineEnds_cons hend, hc⟩

lemma unifyLineEnds_filled {ps : List Part} (h : .char '\r' ∉ unifyParts ps) :
    ∃ cut, Breaks cut ∧ unifyLineEnds (ps.flatMap (Part.filled lookup)) =
      spill lookup cut (unifyParts ps) [] := by
  fun_induction unifyParts ps with
  | case1 ps ih =>
    obtain ⟨cut, hcut, hps⟩ := ih fun hn => h (List.mem_cons_of_mem _ hn)
    refine ⟨cut, hcut, ?_⟩
    rw [spill, ← hps]
    rfl
  | case2 p ps hp ih =>
    obtain ⟨cut, hcut, hps⟩ := ih fun hn => h (List.mem_cons_of_mem _ hn)
    cases p with
    | char c =>
      refine ⟨cut, hcut, ?_⟩
      have hc : c ≠ '\r' := by
        rintro rfl
        exact h List.mem_cons_self
      rw [spill, ← hps, ← unifyLineEnds_cons fun hn => hc hn.1]
      rfl
    | expression name =>
      by_cases hfit : ((Part.expression name).value lookup).all isPlain = true
      · refine ⟨cut, hcut, ?_⟩
        rw [spill, if_pos hfit, ← hps, ← unifyLineEnds_append (List.all_eq_true.mp hfit)]
        rfl
      · -- Here the text is cut: what follows is never read, so it may hold line ends or not.
        let value := (Part.expression name).value lookup
        let after := value.dropWhile isPlain ++ ps.flatMap (Part.filled lookup)
        have hbreaks : Breaks after := by
          have hhead := List.head?_dropWhile_not isPlain value
          cases hd : value.dropWhile isPlain with
          | nil => exact absurd (List.all_eq_true.mpr (List.dropWhile_eq_nil_iff.mp hd)) hfit
          | cons c t =>
            rw [hd] at hhead
            exact ⟨c, t ++ _, congrArg (· ++ ps.flatMap (Part.filled lookup)) hd, hhead⟩
        refine ⟨unifyLineEnds after, breaks_unifyLineEnds hbreaks, ?_⟩
        rw [spill, if_neg hfit, ← unifyLineEnds_append (fun c hc => List.mem_takeWhile_imp hc),
          ← List.append_assoc, List.takeWhile_append_dropWhile]
        rfl
  | case3 => exact ⟨['\n'], ⟨'\n', [], rfl, by decide⟩, rfl⟩

/-- A file whose expressions all stand in quoted values, by the parts of its text, and the document
that it holds. The texts of the document keep their expressions. -/
inductive IsTemplate (parts : List Part) (document : Entries) : Prop
  | intro {statements : List Statement} :
      .char '\r' ∉ unifyParts parts →
      WrittenStatements (dropMarkPart (unifyParts parts)) statements →
      ofStatements statements = some document → IsTemplate parts document

lemma WrittenStatements.head?_ne {ps : List Part} {ss : List Statement}
    (h : WrittenStatements ps ss) (name : String) : ps.head? ≠ some (.expression name) := by
  have hgap (g : List Char) {qs : List Part} (hqs : Begins qs) (rs : List Part) :
      (g.map Part.char ++ (qs ++ rs)).head? ≠ some (.expression name) := by
    obtain ⟨c, t, rfl, -⟩ := hqs
    cases g <;> simp
  cases h with
  | @gap g => cases g <;> simp
  | @last g _ _ _ _ hs _ => exact hgap g hs.begins _
  | @line g _ _ _ _ _ _ hs _ _ => exact hgap g hs.begins _

lemma dropMark_spill {ps : List Part}
    (h : ∀ name, (dropMarkPart ps).head? ≠ some (.expression name)) :
    dropMark (spill lookup cut ps []) = spill lookup cut (dropMarkPart ps) [] := by
  cases ps with
  | nil => rfl
  | cons p ps =>
    cases p with
    | char c =>
      rw [spill, dropMark, dropMarkPart]
      split <;> rfl
    | expression name => exact absurd rfl (h name)

lemma mem_unifyParts {ps : List Part} {name : String} :
    .expression name ∈ unifyParts ps ↔ .expression name ∈ ps := by
  fun_induction unifyParts ps with
  | case1 ps ih => simp [ih]
  | case2 p ps hp ih => simp [ih]
  | case3 => rfl

lemma mem_dropMarkPart {ps : List Part} {name : String} :
    .expression name ∈ dropMarkPart ps ↔ .expression name ∈ ps := by
  fun_cases dropMarkPart ps <;> simp

lemma IsTemplate.read? {parts : List Part} {document : Entries} (h : IsTemplate parts document)
    (ht : Tame lookup parts) :
    Toml.read? (String.ofList (parts.flatMap (Part.filled lookup))) =
      if Fits lookup parts then some (mapEntries (Template.fill lookup) document) else none := by
  obtain ⟨hreturn, hwritten, hdocument⟩ := h
  have hnames (name : String) : .expression name ∈ dropMarkPart (unifyParts parts) ↔
      .expression name ∈ parts := mem_dropMarkPart.trans mem_unifyParts
  have hbody : Tame lookup (dropMarkPart (unifyParts parts)) :=
    tame_iff.mpr fun name hn => tame_iff.mp ht name ((hnames name).mp hn)
  have hfits : Fits lookup (dropMarkPart (unifyParts parts)) ↔ Fits lookup parts := by
    simp only [fits_iff, hnames]
  obtain ⟨cut, hcut, htext⟩ : ∃ cut, Breaks cut ∧
      unifyLineEnds (parts.flatMap (Part.filled lookup)) = _ := unifyLineEnds_filled hreturn
  have hread := hwritten.reads hbody hcut _ _ (Nat.le_add_right _ 2) (Nat.lt_succ_self _)
  rw [Toml.read?, String.toList_ofList, htext, dropMark_spill hwritten.head?_ne, hread]
  by_cases hparts : Fits lookup parts
  · rw [if_pos (hfits.mpr hparts), if_pos hparts, Option.bind_some, ofStatements_mapTexts,
      hdocument]
    rfl
  · rw [if_neg (mt hfits.mp hparts), if_neg hparts]
    rfl

end TurnTaking.Toml
