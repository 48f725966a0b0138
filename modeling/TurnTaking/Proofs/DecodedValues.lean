import TurnTaking.Json.Decode
import TurnTaking.Proofs.NumberValues

namespace TurnTaking

namespace Json

lemma bind_eq_ok_iff {ε α β : Type} {x : Except ε α} {f : α → Except ε β} {b : β} :
    x >>= f = .ok b ↔ ∃ a, x = .ok a ∧ f a = .ok b := by
  cases x <;> simp [bind, Except.bind]

lemma map_eq_ok_iff {ε α β : Type} {x : Except ε α} {f : α → β} {b : β} :
    x.map f = .ok b ↔ ∃ a, x = .ok a ∧ f a = b := by
  cases x <;> simp [Except.map]

namespace NumberToken

variable {x : Binary}

-- An infinite power of ten would turn a zero into no number, and a power that is zero an infinite
-- significand. The powers in use are neither.
lemma exists_power {n : Nat} (h : n ≤ 308) :
    ∃ negative m e, Format.double.ofNat (tenTo n) = .finite negative m e ∧ m ≠ 0 := by
  apply Binary.exists_of_isNonzero
  have hne : tenTo n ≠ 0 := (tenTo_pos n).ne'
  rcases Nat.lt_or_eq_of_le h with hlt | rfl
  · have hle : tenTo n ≤ tenTo 307 := tenTo_le_tenTo (Nat.le_of_lt_succ hlt)
    have htop : tenTo 307 < twoTo 1020 := by decide +kernel
    have hlog := log2_lt_of_lt_twoTo hne (hle.trans_lt htop)
    apply Format.isNonzero_ofNat (by decide) (by decide) hne
    have hlimit : Format.double.limit = 1024 := rfl
    omega
  · decide +kernel

lemma isNan_scaleDouble {significand : Nat} {exponent : Int}
    (h : scaleDouble significand exponent = .ok x) : x.isNan = false := by
  have hx : (Format.double.ofNat significand).isNan = false := Format.isNan_round _ _ _ _
  simp only [scaleDouble] at h
  split at h
  · obtain rfl := Except.ok.inj h
    exact hx
  split at h
  · cases h
  split at h
  · rename_i hle hnonneg
    obtain ⟨negative, m, e, hp, hm⟩ := exists_power (n := exponent.toNat) (by omega)
    have hmul := Format.isNan_mul (f := .double) hx negative hm e
    rw [hp] at h
    split at h
    · cases h
    · obtain rfl := Except.ok.inj h
      exact hmul
  split at h
  · rename_i hle
    obtain ⟨negative, m, e, hp, -⟩ := exists_power hle
    obtain rfl := Except.ok.inj h
    rw [hp]
    exact Format.isNan_div hx negative m e
  split at h
  · rename_i hle
    obtain ⟨negative, m, e, hp, -⟩ := exists_power (n := 308) (le_refl _)
    obtain ⟨negative', m', e', hp', -⟩ := exists_power (n := (-exponent).toNat - 308) (by omega)
    obtain rfl := Except.ok.inj h
    rw [hp, hp']
    exact Format.isNan_div (Format.isNan_div hx negative m e) negative' m' e'
  · obtain rfl := Except.ok.inj h
    rfl

lemma isNan_finish {significand : Nat} {exponent : Int} {part : Option (Bool × List Char)}
    (h : finish significand exponent part = .ok x) : x.isNan = false := by
  cases part with
  | none => exact isNan_scaleDouble h
  | some part =>
    simp only [finish] at h
    split at h
    · split at h
      · cases h
      · obtain rfl := Except.ok.inj h
        rfl
    · exact isNan_scaleDouble h

lemma isNan_toDouble {t : NumberToken} (h : t.toDouble = .ok x) : x.isNan = false := by
  obtain ⟨y, hy, rfl⟩ := map_eq_ok_iff.mp h
  have hn := isNan_finish hy
  split
  · exact (Binary.isNan_negate y).trans hn
  · exact hn

end NumberToken

lemma mismatch_ne_ok {α : Type} (o : Outline) (expected : String) (x : α) :
    o.mismatch expected ≠ .ok x := by
  rw [Outline.mismatch]
  cases o.found <;> simp

lemma isNan_decodeSingle {o : Outline} {x : Binary} (h : decodeSingle o = .ok x) :
    x.isNan = false := by
  rw [decodeSingle.eq_def] at h
  split at h
  · rename_i t
    obtain ⟨j, hj, rfl⟩ := map_eq_ok_iff.mp h
    simp only [NumberToken.decode] at hj
    split at hj
    · obtain rfl := Except.ok.inj hj
      exact Format.isNan_round _ _ _ _
    split at hj
    · obtain rfl := Except.ok.inj hj
      exact Format.isNan_round _ _ _ _
    · obtain ⟨y, hy, rfl⟩ := map_eq_ok_iff.mp hj
      exact (Format.isNan_cast _ _).trans (NumberToken.isNan_toDouble hy)
  · exact absurd h (mismatch_ne_ok o "f32" x)

namespace Record

variable {σ α : Type} {r : Record σ α} {P : σ → Prop}

/-- What holds of a collection of fields, whatever they are filled from. -/
def Keeps (r : Record σ α) (P : σ → Prop) : Prop :=
  ∀ f ∈ r.fields, ∀ o s s', P s → f.fill o s = .ok s' → P s'

lemma Keeps.readMember (hr : r.Keeps P) {s s' : σ} {m : Option TextToken × Outline} (hs : P s)
    (h : r.readMember s m = .ok s') : P s' := by
  obtain ⟨key, value⟩ := m
  cases key with
  | none => cases h
  | some key =>
    obtain ⟨name, -, h⟩ := bind_eq_ok_iff.mp h
    split at h
    · rename_i f hf
      split at h
      · cases h
      · exact hr f (List.mem_of_find?_eq_some hf) value s s' hs h
    · obtain ⟨-, -, h⟩ := bind_eq_ok_iff.mp h
      obtain rfl := Except.ok.inj h
      exact hs

lemma Keeps.foldlM_readMember (hr : r.Keeps P) {ms : List (Option TextToken × Outline)} {s s' : σ}
    (hs : P s) (h : ms.foldlM r.readMember s = .ok s') : P s' := by
  induction ms generalizing s with
  | nil =>
    obtain rfl := Except.ok.inj h
    exact hs
  | cons m ms ih =>
    rw [List.foldlM_cons] at h
    obtain ⟨s₁, hm, h⟩ := bind_eq_ok_iff.mp h
    exact ih (hr.readMember hs hm) h

lemma Keeps.readItems (hr : r.Keeps P) {stop : Stop} {fs : List (Field σ)} (hfs : fs ⊆ r.fields)
    {n : Nat} {os : List Outline} {s s' : σ} (hs : P s)
    (h : r.readItems stop n fs os s = .ok s') : P s' := by
  induction fs generalizing n os s with
  | nil =>
    cases os with
    | nil =>
      rw [Record.readItems, checked.eq_def] at h
      split at h
      · obtain rfl := Except.ok.inj h
        exact hs
      · cases h
    | cons o os => cases h
  | cons f fs ih =>
    rw [List.cons_subset] at hfs
    cases os with
    | nil =>
      rw [Record.readItems] at h
      obtain ⟨-, -, h⟩ := bind_eq_ok_iff.mp h
      split at h
      · exact ih hfs.2 hs h
      · cases h
    | cons o os =>
      rw [Record.readItems] at h
      obtain ⟨s₁, hf, h⟩ := bind_eq_ok_iff.mp h
      exact ih hfs.2 (hr f hfs.1 o s s₁ hs hf) h

lemma Keeps.exists_finish (hr : r.Keeps P) (hs : P r.start) {o : Outline} {a : α}
    (h : r.decode o = .ok a) : ∃ s, P s ∧ r.finish s = .ok a := by
  rw [decode.eq_def] at h
  split at h
  · obtain ⟨s, hfold, h⟩ := bind_eq_ok_iff.mp h
    obtain ⟨-, -, h⟩ := bind_eq_ok_iff.mp h
    exact ⟨s, hr.foldlM_readMember hs hfold, h⟩
  · obtain ⟨s, hitems, h⟩ := bind_eq_ok_iff.mp h
    exact ⟨s, hr.readItems (List.Subset.refl _) hs hitems, h⟩
  · exact absurd h (mismatch_ne_ok _ _ a)

end Record

lemma decode_of_readWith {α : Type} {d : Decoder α} {text : String} {x : α}
    (h : readWith d text = .ok x) : d (Outline.ofText text).1 = .ok x := by
  obtain ⟨y, hy, h⟩ := bind_eq_ok_iff.mp h
  split at h
  · split at h
    · exact hy.trans h
    · cases h
  · exact hy.trans h

lemma required_eq_ok {α : Type} {name : String} {x : Option α} {a : α}
    (h : required name x = .ok a) : x = some a := by
  cases x with
  | none => cases h
  | some b => exact congrArg some (Except.ok.inj h)

end Json

end TurnTaking
