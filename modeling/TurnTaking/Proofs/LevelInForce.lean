import TurnTaking.CommandLine.Run
import TurnTaking.Proofs.LoadedFilter
import TurnTaking.Proofs.Trimming

namespace TurnTaking

lemma Text.toLower_of_blank {c : Char} (h : isBlank c = true) : c.toLower = c := by
  have hspan : ∀ s ∈ blankSpans, s.last < 65 ∨ 90 < s.first := by decide
  obtain ⟨s, hs, hc⟩ := List.any_eq_true.mp h
  rw [Span.contains_iff] at hc
  have hs := hspan s hs
  apply dif_neg
  rintro ⟨hA, hZ⟩
  have hA : 65 ≤ c.toNat := UInt32.le_iff_toNat_le.mp hA
  have hZ : c.toNat ≤ 90 := UInt32.le_iff_toNat_le.mp hZ
  omega

namespace Level

lemma mem_all (l : Level) : l ∈ all := by
  cases l <;> decide

lemma name_injective : Function.Injective name := by
  have hall : ∀ l ∈ all, ∀ l' ∈ all, l.name = l'.name → l = l' := by decide
  exact fun l l' h => hall l (mem_all l) l' (mem_all l') h

lemma any_isBlank_of_name {s : String} {l : Level} (h : Text.lowercaseAscii s = l.name) :
    s.toList.any Text.isBlank = false := by
  have hall : ∀ l ∈ all, l.name.toList.any Text.isBlank = false := by decide
  rw [List.any_eq_false]
  intro c hc hb
  have hmem : c ∈ l.name.toList := by
    rw [← h, Text.lowercaseAscii, String.toList_ofList, List.mem_map]
    exact ⟨c, hc, Text.toLower_of_blank hb⟩
  exact List.any_eq_false.mp (hall l (mem_all l)) c hmem hb

lemma read?_of_name {s : String} {l : Level} (h : Text.lowercaseAscii s = l.name) :
    read? s = some l := by
  have hnumber : ∀ l ∈ all, ∀ l' ∈ all, Text.lowercaseAscii (toString l'.verbosity) ≠ l.name := by
    decide
  have hread : ∀ l' : Level,
      (Text.lowercaseAscii s == l'.name || s == toString l'.verbosity) = decide (l' = l) := by
    intro l'
    have hs : s ≠ toString l'.verbosity := by
      rintro rfl
      exact hnumber l (mem_all l) l' (mem_all l') h
    rw [h, beq_eq_false_iff_ne.mpr hs, Bool.or_false, Bool.eq_iff_iff, beq_iff_eq,
      decide_eq_true_eq]
    exact ⟨fun hn => (name_injective hn).symm, fun hl => hl ▸ rfl⟩
  simp only [read?, hread]
  cases l <;> rfl

lemma read?_of_not_isTrimmed {s : String} (h : ¬ Text.IsTrimmed s) : read? s = none := by
  have hnumber : ∀ l ∈ all, (toString l.verbosity).toList.any Text.isBlank = false := by
    decide
  rw [read?, List.find?_eq_none]
  intro l hl hread
  rw [Bool.or_eq_true, beq_iff_eq, beq_iff_eq] at hread
  apply h
  rcases hread with hname | rfl
  · exact Text.isTrimmed_of_no_blank (any_isBlank_of_name hname)
  · exact Text.isTrimmed_of_no_blank (hnumber l hl)

end Level

namespace LoggingSettings

lemma isLevel_iff (s : LoggingSettings) :
    s.isLevel = true ↔ ∃ l : Level, l.name = LogFormat.normalize s.level := by
  rw [isLevel, levelNames, List.contains_eq_mem, decide_eq_true_eq, List.mem_map]
  constructor
  · rintro ⟨l, -, hl⟩
    exact ⟨l, hl⟩
  · rintro ⟨l, hl⟩
    exact ⟨l, Level.mem_all l, hl⟩

lemma limit_of_isTrimmed {s : LoggingSettings} {l : Level}
    (hl : l.name = LogFormat.normalize s.level) (h : Text.IsTrimmed s.level) : s.limit = l := by
  rw [LogFormat.normalize, Text.trim_of_isTrimmed h] at hl
  rw [limit, Level.read?_of_name hl.symm]
  rfl

lemma limit_of_not_isTrimmed {s : LoggingSettings} (h : ¬ Text.IsTrimmed s.level) :
    s.limit = .info := by
  rw [limit, Level.read?_of_not_isTrimmed h]
  rfl

end LoggingSettings

namespace Run

/-- Wherever settings load, their level names one, and the log is shown up to a limit. The limit is
the level that was named exactly if there are no blanks around the name or it is `info`, and `info`
in every other case. -/
theorem limit_of_load {w : World} {o : LoadOptions} {s : Settings} (h : Settings.load w o = .ok s) :
    ∃ l : Level, l.name = LogFormat.normalize s.logging.level ∧
      (s.logging.limit = l ↔ Text.IsTrimmed s.logging.level ∨ l = .info) ∧
      (s.logging.limit = l ∨ s.logging.limit = .info) ∧
      ∀ log, shownLog w o log = .log s.logging.format (log.upTo s.logging.limit) := by
  have hlevel := Settings.isLevel_of_validate (Settings.validate_of_load h)
  obtain ⟨l, hl⟩ := (LoggingSettings.isLevel_iff s.logging).mp hlevel
  have hshown : ∀ log, shownLog w o log = .log s.logging.format (log.upTo s.logging.limit) := by
    intro log
    rw [shownLog, h]
  by_cases ht : Text.IsTrimmed s.logging.level
  · have hlimit := LoggingSettings.limit_of_isTrimmed hl ht
    exact ⟨l, hl, iff_of_true hlimit (Or.inl ht), Or.inl hlimit, hshown⟩
  · have hlimit := LoggingSettings.limit_of_not_isTrimmed ht
    refine ⟨l, hl, ?_, Or.inr hlimit, hshown⟩
    rw [hlimit]
    exact ⟨fun hi => Or.inr hi.symm, fun hi => (hi.resolve_left ht).symm⟩

theorem limit_of_load_capitals :
    let w := World.ofLists [("backchannel.toml", .ok "[logging]\nlevel = \"Debug\"\n")] []
    let o : LoadOptions := {}
    ∃ s, Settings.load w o = .ok s ∧ s.logging.limit = .debug ∧
      shownLog w o [.speakingChanged true] = .log .compact [.speakingChanged true] := by
  intro w o
  have h : Settings.load w o = .ok { logging := { level := "Debug" } } := by
    simp only [w, o]
    decide +kernel
  obtain ⟨l, hl, hlimit, -, hshown⟩ := limit_of_load h
  have hdebug : l = .debug := Level.name_injective (hl.trans (by decide +kernel))
  have ht : Text.IsTrimmed "Debug" := by simp [Text.IsTrimmed]; decide
  have hin := hlimit.mpr (Or.inl ht)
  refine ⟨_, h, hin.trans hdebug, ?_⟩
  rw [hshown, hin, hdebug]
  rfl

theorem limit_forgets_padded_level :
    let w := World.ofLists [] [("BACKCHANNEL_LOG_LEVEL", " debug ")]
    let o : LoadOptions := {}
    ∃ s, Settings.load w o = .ok s ∧ Level.debug.name = LogFormat.normalize s.logging.level ∧
      s.logging.limit ≠ .debug ∧
      shownLog w o [.speakingChanged true] = .log .compact [] := by
  intro w o
  have h : Settings.load w o = .ok { logging := { level := " debug " } } := by
    simp only [w, o]
    decide +kernel
  refine ⟨_, h, ?_, ?_, ?_⟩
  · decide +kernel
  · decide +kernel
  · rw [shownLog, h]
    decide +kernel

end Run

end TurnTaking
