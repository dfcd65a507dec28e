import KubeNova.Clusters.Quantities
import KubeNova.Foundation.Lookup
import Mathlib.Tactic.Linarith
import Mathlib.Tactic.NormNum

/-!
# Which quantities the two services read exactly

What the four functions make of each quantity, where that is its value or nothing at all, and where
the two services agree on a text.
-/

namespace KubeNova.Clusters

open KubeNova.Foundation
open KubeNova.Foundation.Text (isDigit isSpace trimChars)

section Texts

variable {q : Quantity} {c : Char}

theorem isSpace_of_digit (hc : isDigit c = true) : isSpace c = false :=
  Quantity.isSpace_of_isNumberChar (by rw [Quantity.isNumberChar, hc]; rfl)

theorem isSpace_of_mem_suffix (suffix : Suffix) : ∀ c ∈ suffix.text, isSpace c = false := by
  intro c hc
  cases suffix with
  | si unit =>
      have hall : unit.text.all (fun c => !isSpace c) = true := by cases unit <;> decide
      simpa using List.all_eq_true.mp hall c hc
  | exponent upper negative digits =>
      rcases List.mem_cons.mp hc with rfl | hc
      · cases upper <;> decide
      · rcases List.mem_append.mp hc with hc | hc
        · match negative with
          | none => cases hc
          | some true =>
              rw [List.mem_singleton.mp hc]
              decide
          | some false =>
              rw [List.mem_singleton.mp hc]
              decide
        · exact isSpace_of_digit (digits.digits c hc)

theorem trimChars_text (q : Quantity) : trimChars q.text = q.text := by
  apply trimBoth_eq_self
  intro c hc
  rcases List.mem_append.mp hc with hc | hc
  · cases hplus : q.plus with
    | false =>
        rw [hplus] at hc
        cases hc
    | true =>
        rw [hplus] at hc
        rw [List.mem_singleton.mp hc]
        decide
  · rcases List.mem_append.mp hc with hc | hc
    · exact Quantity.isSpace_of_isNumberChar (Quantity.isNumberChar_of_mem hc)
    · exact isSpace_of_mem_suffix q.suffix c hc

theorem text_ne_nil (q : Quantity) : q.text ≠ [] := by
  intro hnil
  have hparts := (List.append_eq_nil_iff.mp hnil).2
  exact q.numberText_ne_nil (List.append_eq_nil_iff.mp hparts).1

theorem getLast?_text_of_unit (hsuffix : q.suffix.text ≠ []) :
    q.text.getLast? = q.suffix.text.getLast? := by
  rw [Quantity.text, ← List.append_assoc, List.getLast?_append_of_ne_nil _ hsuffix]

theorem getLast?_text_of_number (hsuffix : q.suffix.text = []) :
    ∃ c, q.text.getLast? = some c ∧ Quantity.isNumberChar c = true := by
  have hlast : q.text.getLast? = some (q.numberText.getLast q.numberText_ne_nil) := by
    rw [Quantity.text, hsuffix, List.append_nil,
      List.getLast?_append_of_ne_nil _ q.numberText_ne_nil,
      List.getLast?_eq_some_getLast q.numberText_ne_nil]
  exact ⟨_, hlast, Quantity.isNumberChar_of_mem (List.getLast_mem _)⟩

theorem getLast?_text_of_exponent {upper : Bool} {negative : Option Bool} {digits : Digits}
    (hsuffix : q.suffix = .exponent upper negative digits) :
    ∃ c, q.text.getLast? = some c ∧ Quantity.isNumberChar c = true := by
  have hne : q.suffix.text ≠ [] := by
    rw [hsuffix]
    exact List.cons_ne_nil _ _
  have hlast : q.text.getLast? = some (digits.chars.getLast digits.nonempty) := by
    rw [getLast?_text_of_unit hne, hsuffix, Suffix.text, ← List.cons_append,
      List.getLast?_append_of_ne_nil _ digits.nonempty,
      List.getLast?_eq_some_getLast digits.nonempty]
  refine ⟨_, hlast, ?_⟩
  rw [Quantity.isNumberChar, digits.digits _ (List.getLast_mem _)]
  rfl

end Texts

/-! ## Processors -/

section Cpu

variable {q : Quantity} {x : ℚ} {text : List Char}

/-- The last characters `ClustersService` takes for a unit, but for the one both services know. -/
def cpuUnits : List Char := ['n', 'u', 'µ', 'μ', 'K', 'k', 'M', 'G', 'T', 'P', 'E']

theorem cpuScale_of_other {last : Option Char} (hmilli : last ≠ some 'm')
    (hunits : ∀ c ∈ cpuUnits, last ≠ some c) : cpuScale last x = x := by
  have hne : ∀ c, c ∈ cpuUnits → ¬last = some c := hunits
  rw [cpuScale, if_neg (hne 'n' (by decide)), if_neg, if_neg hmilli, if_neg,
    if_neg (hne 'M' (by decide)), if_neg (hne 'G' (by decide)), if_neg (hne 'T' (by decide)),
    if_neg (hne 'P' (by decide)), if_neg (hne 'E' (by decide))]
  · rintro (h | h)
    · exact hne 'K' (by decide) h
    · exact hne 'k' (by decide) h
  · rintro (h | h | h)
    · exact hne 'u' (by decide) h
    · exact hne 'µ' (by decide) h
    · exact hne 'μ' (by decide) h

theorem cpuScale_of_number {c : Char} (hc : Quantity.isNumberChar c = true) :
    cpuScale (some c) x = x := by
  apply cpuScale_of_other
  · intro h
    exact Quantity.ne_of_isNumberChar hc (by decide) (Option.some.inj h)
  · intro d hd h
    have hletter : Quantity.isNumberChar d = false := by
      have hall : cpuUnits.all (fun d => !Quantity.isNumberChar d) = true := by decide
      simpa using List.all_eq_true.mp hall d hd
    exact Quantity.ne_of_isNumberChar hc hletter (Option.some.inj h)

theorem cpuScale_eq_self_iff {c : Char} (hc : c ∈ cpuUnits) : cpuScale (some c) x = x ↔ x = 0 := by
  constructor
  · intro h
    simp only [cpuUnits, List.mem_cons, List.not_mem_nil, or_false] at hc
    rcases hc with rfl | rfl | rfl | rfl | rfl | rfl | rfl | rfl | rfl | rfl | rfl <;>
      (simp [cpuScale] at h; linarith)
  · rintro rfl
    simp [cpuScale]

/-- What `ClustersService` multiplies with: a binary unit is overlooked. -/
def Suffix.cpuFactor : Suffix → ℚ
  | .si unit => if unit.isBinary then 1 else unit.factor
  | .exponent .. => 1

theorem cpuScale_text (q : Quantity) (x : ℚ) :
    cpuScale q.text.getLast? x = x * q.suffix.cpuFactor := by
  cases hsuffix : q.suffix with
  | exponent upper negative digits =>
      obtain ⟨c, hlast, hc⟩ := getLast?_text_of_exponent hsuffix
      rw [hlast, cpuScale_of_number hc, Suffix.cpuFactor, mul_one]
  | si unit =>
      by_cases hone : unit = .one
      · subst hone
        have htext : q.suffix.text = [] := by
          rw [hsuffix]
          rfl
        obtain ⟨c, hlast, hc⟩ := getLast?_text_of_number htext
        rw [hlast, cpuScale_of_number hc]
        exact (mul_one x).symm
      · have htext : q.suffix.text ≠ [] := by
          rw [hsuffix]
          cases unit <;> first | exact List.cons_ne_nil _ _ | exact absurd rfl hone
        rw [getLast?_text_of_unit htext, hsuffix]
        cases unit <;>
          simp [Suffix.text, SiSuffix.text, cpuScale, Suffix.cpuFactor, SiSuffix.isBinary,
            SiSuffix.factor, div_eq_mul_inv] at hone ⊢

theorem clustersCpu_text (q : Quantity) :
    clustersCpuToCores q.text =
      if overflow ≤ q.number then none else some (.finite (q.number * q.suffix.cpuFactor)) := by
  simp only [clustersCpuToCores, trimChars_text, if_neg (text_ne_nil q), Quantity.parseFloat_text,
    Number.ofDecimal, Bool.false_eq_true, if_false]
  by_cases hover : overflow ≤ q.number
  · simp only [if_pos hover]
  · simp only [if_neg hover, cpuScale_text]

theorem closes_milli : Closes 'm' := by
  refine ⟨?_, ⟨?_, ?_⟩, ?_, ⟨?_, ?_⟩, ?_, ?_⟩ <;> decide

theorem parseFloat_dropLast (h : text.getLast? = some 'm') :
    parseFloat text.dropLast = parseFloat text := by
  have hne : text ≠ [] := by
    rintro rfl
    cases h
  have hlast : text.getLast hne = 'm' := by
    rw [List.getLast?_eq_some_getLast hne] at h
    exact Option.some.inj h
  have htext := List.dropLast_append_getLast hne
  rw [hlast] at htext
  rw [← parseFloat_append closes_milli text.dropLast, htext]

/-- `ClusterSyncService` knows one unit. -/
def syncScale (last : Option Char) (x : ℚ) : ℚ := if last = some 'm' then x / 1000 else x

theorem syncCpuToCores_eq (value : List Char) : syncCpuToCores value =
    match parseFloat (trimChars value) with
    | .finite x => .finite (syncScale (trimChars value).getLast? x)
    | _ => .finite 0 := by
  simp only [syncCpuToCores]
  generalize trimChars value = text
  by_cases hnil : text = []
  · subst hnil
    rfl
  · rw [if_neg hnil]
    by_cases hmilli : text.getLast? = some 'm'
    · rw [if_pos hmilli, parseFloat_dropLast hmilli, hmilli]
      cases parseFloat text <;> rfl
    · rw [if_neg hmilli]
      cases parseFloat text with
      | finite x =>
          show Number.finite x = .finite (syncScale text.getLast? x)
          rw [syncScale, if_neg hmilli]
      | _ => rfl

/-- What `ClusterSyncService` multiplies with: every unit but a thousandth is overlooked. -/
def Suffix.syncFactor : Suffix → ℚ
  | .si .milli => SiSuffix.milli.factor
  | _ => 1

theorem syncScale_text (q : Quantity) (x : ℚ) :
    syncScale q.text.getLast? x = x * q.suffix.syncFactor := by
  have hnumber : (∃ c, q.text.getLast? = some c ∧ Quantity.isNumberChar c = true) →
      syncScale q.text.getLast? x = x * 1 := by
    rintro ⟨c, hlast, hc⟩
    rw [hlast, syncScale, if_neg, mul_one]
    exact fun h => Quantity.ne_of_isNumberChar hc (by decide) (Option.some.inj h)
  cases hsuffix : q.suffix with
  | exponent upper negative digits => exact hnumber (getLast?_text_of_exponent hsuffix)
  | si unit =>
      by_cases hone : unit = .one
      · subst hone
        refine hnumber (getLast?_text_of_number ?_)
        rw [hsuffix]
        rfl
      · have htext : q.suffix.text ≠ [] := by
          rw [hsuffix]
          cases unit <;> first | exact List.cons_ne_nil _ _ | exact absurd rfl hone
        rw [getLast?_text_of_unit htext, hsuffix]
        cases unit <;>
          simp [Suffix.text, SiSuffix.text, syncScale, Suffix.syncFactor, SiSuffix.factor,
            div_eq_mul_inv] at hone ⊢

theorem syncCpu_text (q : Quantity) :
    syncCpuToCores q.text =
      if overflow ≤ q.number then .finite 0 else .finite (q.number * q.suffix.syncFactor) := by
  rw [syncCpuToCores_eq, trimChars_text, Quantity.parseFloat_text, Number.ofDecimal]
  by_cases hover : overflow ≤ q.number
  · simp only [if_pos hover, Bool.false_eq_true, if_false]
  · simp only [if_neg hover, Bool.false_eq_true, if_false, syncScale_text]

theorem mul_eq_mul_iff_of_ne {f g : ℚ} (hfg : f ≠ g) : x * f = x * g ↔ x = 0 := by
  constructor
  · intro h
    rcases mul_eq_mul_left_iff.mp h with h | h
    · exact absurd h hfg
    · exact h
  · rintro rfl
    rw [zero_mul, zero_mul]

theorem isBinary_iff_factor (suffix : Suffix) :
    suffix.cpuFactor = suffix.factor ↔ ∀ unit, suffix = .si unit → unit.isBinary = false := by
  cases suffix with
  | exponent upper negative digits => exact ⟨fun _ unit h => (by cases h), fun _ => rfl⟩
  | si unit =>
      have hunit : (∀ other, Suffix.si unit = .si other → other.isBinary = false) ↔
          unit.isBinary = false := by
        refine ⟨fun h => h unit rfl, ?_⟩
        intro h other hother
        rw [← Suffix.si.inj hother]
        exact h
      rw [hunit]
      cases unit <;>
        norm_num [Suffix.cpuFactor, Suffix.factor, SiSuffix.isBinary, SiSuffix.factor]

/-- The suffixes `ClusterSyncService` does not overlook. -/
def Suffix.isKnownToSync : Suffix → Bool
  | .si .milli | .si .one | .exponent .. => true
  | _ => false

theorem isKnownToSync_iff_factor (suffix : Suffix) :
    suffix.syncFactor = suffix.factor ↔ suffix.isKnownToSync = true := by
  cases suffix with
  | exponent upper negative digits => exact ⟨fun _ => rfl, fun _ => rfl⟩
  | si unit =>
      cases unit <;>
        norm_num [Suffix.syncFactor, Suffix.factor, SiSuffix.factor, Suffix.isKnownToSync]

theorem clustersCpu_exact_iff (q : Quantity) :
    (clustersCpuToCores q.text = none ∨ clustersCpuToCores q.text = some (.finite q.value)) ↔
      (∀ unit, q.suffix = .si unit → unit.isBinary = false) ∨ q.number = 0 ∨
        overflow ≤ q.number := by
  rw [clustersCpu_text, ← isBinary_iff_factor]
  by_cases hover : overflow ≤ q.number
  · rw [if_pos hover]
    exact ⟨fun _ => Or.inr (Or.inr hover), fun _ => Or.inl rfl⟩
  · rw [if_neg hover]
    simp only [reduceCtorEq, false_or, Option.some.injEq, Number.finite.injEq, Quantity.value,
      hover, or_false]
    by_cases hfactor : q.suffix.cpuFactor = q.suffix.factor
    · rw [hfactor]
      exact ⟨fun _ => Or.inl rfl, fun _ => rfl⟩
    · rw [mul_eq_mul_iff_of_ne hfactor]
      exact ⟨Or.inr, fun h => h.resolve_left hfactor⟩

theorem syncCpu_exact_iff (q : Quantity) :
    (syncCpuToCores q.text = .finite 0 ∨ syncCpuToCores q.text = .finite q.value) ↔
      q.suffix.isKnownToSync = true ∨ q.number = 0 ∨ overflow ≤ q.number := by
  rw [syncCpu_text, ← isKnownToSync_iff_factor]
  by_cases hover : overflow ≤ q.number
  · rw [if_pos hover]
    exact ⟨fun _ => Or.inr (Or.inr hover), fun _ => Or.inl rfl⟩
  · have hsync : q.suffix.syncFactor ≠ 0 := by
      cases q.suffix with
      | exponent upper negative digits => exact one_ne_zero
      | si unit => cases unit <;> norm_num [Suffix.syncFactor, SiSuffix.factor]
    rw [if_neg hover]
    simp only [Number.finite.injEq, Quantity.value, hover, or_false, mul_eq_zero, hsync]
    by_cases hfactor : q.suffix.syncFactor = q.suffix.factor
    · rw [hfactor]
      exact ⟨fun _ => Or.inl rfl, fun _ => Or.inr rfl⟩
    · rw [mul_eq_mul_iff_of_ne hfactor]
      exact ⟨fun h => Or.inr (h.elim id id), fun h => Or.inl (h.resolve_left hfactor)⟩

/-- Where both services read a text as processors they agree, unless the one takes its last
character for a unit that the other overlooks. -/
theorem cpu_agree_iff (value : List Char) :
    (∀ cores, clustersCpuToCores value = some cores → syncCpuToCores value ≠ .finite 0 →
        cores = syncCpuToCores value) ↔
      (∀ c ∈ cpuUnits, (trimChars value).getLast? ≠ some c) ∨
        ∀ x, parseFloat (trimChars value) = .finite x → x = 0 := by
  rw [syncCpuToCores_eq, clustersCpuToCores]
  generalize trimChars value = text
  by_cases hnil : text = []
  · subst hnil
    refine ⟨fun _ => Or.inl ?_, ?_⟩
    · intro c _ h
      cases h
    · intro _ cores h
      cases h
  · simp only [if_neg hnil]
    cases parseFloat text with
    | finite x =>
        simp only [Option.some.injEq, forall_eq', ne_eq, Number.finite.injEq]
        by_cases hzero : x = 0
        · subst hzero
          refine ⟨fun _ => Or.inr rfl, fun _ h => absurd ?_ h⟩
          rw [syncScale]
          split
          · exact zero_div _
          · rfl
        · by_cases hunit : ∀ c ∈ cpuUnits, text.getLast? ≠ some c
          · refine ⟨fun _ => Or.inl hunit, fun _ _ => ?_⟩
            by_cases hmilli : text.getLast? = some 'm'
            · rw [hmilli]
              rfl
            · rw [cpuScale_of_other hmilli hunit, syncScale, if_neg hmilli]
          · have hexists : ∃ c ∈ cpuUnits, text.getLast? = some c := by
              by_contra hnone
              exact hunit fun c hc h => hnone ⟨c, hc, h⟩
            obtain ⟨c, hc, hlast⟩ := hexists
            have hne : c ≠ 'm' := by
              rintro rfl
              revert hc
              decide
            have hsync : syncScale text.getLast? x = x := by
              rw [hlast, syncScale, if_neg fun h => hne (Option.some.inj h)]
            rw [hsync, hlast]
            constructor
            · intro h
              exact absurd ((cpuScale_eq_self_iff hc).mp (h hzero)) hzero
            · rintro (h | h)
              · exact absurd rfl (h c hc)
              · exact absurd h hzero
    | infinity => exact ⟨fun _ => Or.inr fun x h => (by cases h), fun _ cores h => (by cases h)⟩
    | negInfinity => exact ⟨fun _ => Or.inr fun x h => (by cases h), fun _ cores h => (by cases h)⟩
    | nan => exact ⟨fun _ => Or.inr fun x h => (by cases h), fun _ cores h => (by cases h)⟩

end Cpu

/-! ## Memory -/

section Memory

variable {q : Quantity} {units : Units}

/-- The numbers the pattern for memory accepts: no sign, and a digit on each side of a point. -/
def Quantity.isPlain (q : Quantity) : Bool :=
  !q.plus && !q.whole.isEmpty && decide (q.fraction ≠ some [])

theorem not_letter_of_digit {c : Char} (hc : isDigit c = true) : isLetter c = false := by
  rw [isDigit, Bool.and_eq_true, decide_eq_true_eq, decide_eq_true_eq] at hc
  have hhigh : c.toNat ≤ 57 := hc.2
  rw [isLetter, Bool.or_eq_false_iff, Bool.and_eq_false_iff, Bool.and_eq_false_iff]
  have hlower : ¬ 'a' ≤ c := by
    intro h
    have hle : 97 ≤ c.toNat := h
    omega
  have hupper : ¬ 'A' ≤ c := by
    intro h
    have hle : 65 ≤ c.toNat := h
    omega
  exact ⟨Or.inl (decide_eq_false hlower), Or.inl (decide_eq_false hupper)⟩

theorem all_isLetter_suffix (suffix : Suffix) :
    suffix.text.all isLetter = true ↔ ∃ unit, suffix = .si unit := by
  cases suffix with
  | si unit =>
      refine ⟨fun _ => ⟨unit, rfl⟩, fun _ => ?_⟩
      cases unit <;> decide
  | exponent upper negative digits =>
      refine ⟨?_, fun ⟨unit, h⟩ => by cases h⟩
      intro hall
      obtain ⟨d, hd⟩ := List.exists_mem_of_ne_nil _ digits.nonempty
      have hmem : d ∈ (Suffix.exponent upper negative digits).text :=
        List.mem_cons_of_mem _ (List.mem_append_right _ hd)
      have hletter := List.all_eq_true.mp hall d hmem
      rw [not_letter_of_digit (digits.digits d hd)] at hletter
      cases hletter

theorem matchAmount_of_plus (hplus : q.plus = true) : matchAmount q.text = none := by
  have htext : q.text = '+' :: (q.numberText ++ q.suffix.text) := by rw [Quantity.text, hplus]; rfl
  have hwhole : ('+' :: (q.numberText ++ q.suffix.text)).takeWhile isDigit = [] := rfl
  rw [htext, matchAmount]
  simp only [hwhole, true_or, if_true]

theorem matchAmount_of_unsigned (hplus : q.plus = false) : matchAmount q.text =
    if q.whole = [] ∨ (if q.fraction.getD [] = [] then Quantity.pointText q.fraction ++ q.suffix.text
        else q.suffix.text).all isLetter = false then none
    else some (q.whole, q.fraction.getD [],
      if q.fraction.getD [] = [] then Quantity.pointText q.fraction ++ q.suffix.text
        else q.suffix.text) := by
  have htext : q.text = q.numberText ++ q.suffix.text := by rw [Quantity.text, hplus]; rfl
  rw [htext, matchAmount]
  simp only [q.scanDigits, q.scanFraction_pointText]

theorem afterFraction_eq (h : q.fraction ≠ some []) :
    (if q.fraction.getD [] = [] then Quantity.pointText q.fraction ++ q.suffix.text
      else q.suffix.text) = q.suffix.text := by
  cases hfraction : q.fraction with
  | none => rfl
  | some fraction =>
      have hne : ¬(some fraction).getD [] = [] := by
        rintro rfl
        exact h hfraction
      rw [if_neg hne]

theorem matchAmount_of_plain {unit : SiSuffix} (hplain : q.isPlain = true)
    (hsuffix : q.suffix = .si unit) :
    matchAmount q.text = some (q.whole, q.fraction.getD [], unit.text) := by
  rw [Quantity.isPlain, Bool.and_eq_true, Bool.and_eq_true, Bool.not_eq_true', decide_eq_true_eq]
    at hplain
  obtain ⟨⟨hplus, hwhole⟩, hfraction⟩ := hplain
  have hletters : (Suffix.si unit).text.all isLetter = true :=
    (all_isLetter_suffix _).mpr ⟨unit, rfl⟩
  have hne : ¬(q.whole = [] ∨ (Suffix.si unit).text.all isLetter = false) := by
    rintro (h | h)
    · rw [h] at hwhole
      cases hwhole
    · rw [hletters] at h
      cases h
  rw [matchAmount_of_unsigned hplus, afterFraction_eq hfraction, hsuffix, if_neg hne]
  rfl

theorem matchAmount_of_other (h : q.isPlain = false ∨ ∀ unit, q.suffix ≠ .si unit) :
    matchAmount q.text = none := by
  cases hplus : q.plus with
  | true => exact matchAmount_of_plus hplus
  | false =>
      rw [matchAmount_of_unsigned hplus]
      by_cases hfraction : q.fraction = some []
      · rw [hfraction]
        exact if_pos (Or.inr rfl)
      · rw [afterFraction_eq hfraction]
        refine if_pos ?_
        rcases h with h | h
        · refine Or.inl ?_
          by_contra hwhole
          rw [Quantity.isPlain, hplus, decide_eq_true hfraction] at h
          simp [hwhole] at h
        · refine Or.inr ?_
          rw [Bool.eq_false_iff]
          intro hall
          obtain ⟨unit, hunit⟩ := (all_isLetter_suffix _).mp hall
          exact h unit hunit

theorem readMemory_of_plain {unit : SiSuffix} (hplain : q.isPlain = true)
    (hsuffix : q.suffix = .si unit) :
    readMemory units q.text =
      if overflow ≤ q.number then none
      else (unitOf units (unit.text.map Char.toLower)).map (scaleBy q.number) := by
  have hnumber : decimalValue q.whole (q.fraction.getD []) 0 = q.number := by
    rw [Quantity.number, hsuffix]
    rfl
  simp only [readMemory, trimChars_text, if_neg (text_ne_nil q), matchAmount_of_plain hplain hsuffix,
    hnumber, Number.ofDecimal, Bool.false_eq_true, if_false]
  by_cases hover : overflow ≤ q.number
  · simp only [if_pos hover]
  · simp only [if_neg hover]

theorem readMemory_of_other (h : q.isPlain = false ∨ ∀ unit, q.suffix ≠ .si unit) :
    readMemory units q.text = none := by
  simp only [readMemory, trimChars_text, if_neg (text_ne_nil q), matchAmount_of_other h]

/-- A table that has the unit a million bytes for `m`, and others exactly or not at all. -/
structure AlmostExact (units : Units) : Prop where
  milli : unitOf units ['m'] = some (.finite 1000000)
  others : ∀ unit, unit ≠ SiSuffix.milli → unitOf units (unit.text.map Char.toLower) = none ∨
    unitOf units (unit.text.map Char.toLower) = some (.finite unit.factor)

theorem clustersUnits_almostExact : AlmostExact clustersUnits where
  milli := by decide +kernel
  others := by
    intro unit hunit
    cases unit <;> first
      | exact absurd rfl hunit
      | exact Or.inl (by decide +kernel)
      | exact Or.inr (by decide +kernel)

theorem syncUnits_almostExact : AlmostExact syncUnits where
  milli := by decide +kernel
  others := by
    intro unit hunit
    cases unit <;> first
      | exact absurd rfl hunit
      | exact Or.inl (by decide +kernel)
      | exact Or.inr (by decide +kernel)

/-- Where a quantity of memory is read exactly or not at all: thousandths are taken for millions. -/
def Quantity.MilliApart (q : Quantity) : Prop :=
  q.suffix ≠ .si .milli ∨ q.number = 0 ∨ q.isPlain = false ∨ overflow ≤ q.number

theorem readMemory_milli (hunits : AlmostExact units) (hmilli : ¬q.MilliApart) :
    readMemory units q.text = some (.finite (q.number * 1000000)) := by
  rw [Quantity.MilliApart, not_or, not_or, not_or, not_not, Bool.not_eq_false] at hmilli
  obtain ⟨hsuffix, -, hplain, hover⟩ := hmilli
  rw [readMemory_of_plain hplain hsuffix, if_neg hover]
  have hunit : unitOf units (SiSuffix.milli.text.map Char.toLower) = some (.finite 1000000) :=
    hunits.milli
  rw [hunit]
  rfl

theorem readMemory_of_milliApart (hunits : AlmostExact units) (hapart : q.MilliApart) :
    readMemory units q.text = none ∨ readMemory units q.text = some (.finite q.value) := by
  by_cases hother : q.isPlain = false ∨ ∀ unit, q.suffix ≠ .si unit
  · exact Or.inl (readMemory_of_other hother)
  · rw [not_or, Bool.not_eq_false, not_forall] at hother
    obtain ⟨hplain, unit, hunit⟩ := hother
    rw [not_not] at hunit
    rw [readMemory_of_plain hplain hunit]
    by_cases hover : overflow ≤ q.number
    · exact Or.inl (if_pos hover)
    · rw [if_neg hover]
      have hvalue : q.value = q.number * unit.factor := by
        rw [Quantity.value, hunit]
        rfl
      by_cases hmilli : unit = .milli
      · subst hmilli
        have hzero : q.number = 0 := by
          rcases hapart with h | h | h | h
          · exact absurd hunit h
          · exact h
          · rw [h] at hplain
            cases hplain
          · exact absurd h hover
        have hm : unitOf units (SiSuffix.milli.text.map Char.toLower) = some (.finite 1000000) :=
          hunits.milli
        refine Or.inr ?_
        rw [hm, hvalue, hzero, Option.map_some, scaleBy, zero_mul, zero_mul]
      · rcases hunits.others unit hmilli with h | h
        · rw [h]
          exact Or.inl rfl
        · rw [h, hvalue]
          exact Or.inr rfl

theorem value_milli_ne (hmilli : ¬q.MilliApart) : q.number * 1000000 ≠ q.value ∧
    q.number * 1000000 ≠ 0 := by
  rw [Quantity.MilliApart, not_or, not_or, not_not] at hmilli
  obtain ⟨hsuffix, hzero, -⟩ := hmilli
  constructor
  · rw [Quantity.value, hsuffix]
    intro h
    refine hzero ((mul_eq_mul_iff_of_ne ?_).mp h)
    norm_num [Suffix.factor, SiSuffix.factor]
  · exact mul_ne_zero hzero (by norm_num)

theorem clustersMemory_exact_iff (q : Quantity) :
    (clustersMemoryToBytes q.text = none ∨ clustersMemoryToBytes q.text = some (.finite q.value)) ↔
      q.MilliApart := by
  refine ⟨?_, readMemory_of_milliApart clustersUnits_almostExact⟩
  intro h
  by_contra hmilli
  rw [clustersMemoryToBytes, readMemory_milli clustersUnits_almostExact hmilli] at h
  rcases h with h | h
  · cases h
  · exact (value_milli_ne hmilli).1 (Number.finite.inj (Option.some.inj h))

theorem syncMemory_exact_iff (q : Quantity) :
    (syncMemoryToBytes q.text = .finite 0 ∨ syncMemoryToBytes q.text = .finite q.value) ↔
      q.MilliApart := by
  constructor
  · intro h
    by_contra hmilli
    rw [syncMemoryToBytes, readMemory_milli syncUnits_almostExact hmilli] at h
    rcases h with h | h
    · exact (value_milli_ne hmilli).2 (Number.finite.inj h)
    · exact (value_milli_ne hmilli).1 (Number.finite.inj h)
  · intro hapart
    rw [syncMemoryToBytes]
    rcases readMemory_of_milliApart syncUnits_almostExact hapart with h | h
    · rw [h]
      exact Or.inl rfl
    · rw [h]
      exact Or.inr rfl

theorem unitOf_sync {suffix : List Char} {base : Number}
    (h : unitOf clustersUnits suffix = some base) : unitOf syncUnits suffix = some base := by
  rw [unitOf] at h
  cases hlookup : clustersUnits.lookup suffix with
  | some x =>
      rw [hlookup] at h
      have hall : ∀ p ∈ clustersUnits, unitOf syncUnits p.1 = some (.finite p.2) := by
        decide +kernel
      rw [← Option.some.inj h]
      exact hall _ (mem_of_lookup hlookup)
  | none =>
      rw [hlookup] at h
      dsimp only at h
      split at h
      · rename_i hname
        rw [hname, ← Option.some.inj h]
        decide +kernel
      · cases h

theorem memory_agree {value : List Char} {bytes : Number}
    (h : clustersMemoryToBytes value = some bytes) : syncMemoryToBytes value = bytes := by
  have hread : readMemory syncUnits value = some bytes := by
    rw [clustersMemoryToBytes] at h
    simp only [readMemory] at h ⊢
    by_cases hnil : trimChars value = []
    · rw [if_pos hnil] at h
      cases h
    · rw [if_neg hnil] at h ⊢
      cases hmatch : matchAmount (trimChars value) with
      | none =>
          rw [hmatch] at h
          cases h
      | some parts =>
          rw [hmatch] at h
          dsimp only at h ⊢
          cases hnumber : Number.ofDecimal false (decimalValue parts.1 parts.2.1 0) with
          | finite amount =>
              rw [hnumber] at h
              obtain ⟨base, hbase, hscaled⟩ := Option.map_eq_some_iff.mp h
              rw [← hscaled]
              exact Option.map_eq_some_iff.mpr ⟨base, unitOf_sync hbase, rfl⟩
          | infinity => rw [hnumber] at h; cases h
          | negInfinity => rw [hnumber] at h; cases h
          | nan => rw [hnumber] at h; cases h
  rw [syncMemoryToBytes, hread]
  rfl

end Memory

/-- Each function reads a quantity exactly or not at all precisely where its suffix is none it
mistakes, or its number is zero or cannot be read; and where both services read a text they agree
on memory, and on processors unless the last character is a unit to one of them only. -/
theorem quantities_iff (q : Quantity) (value : List Char) :
    (((clustersCpuToCores q.text = none ∨ clustersCpuToCores q.text = some (.finite q.value)) ↔
        (∀ unit, q.suffix = .si unit → unit.isBinary = false) ∨ q.number = 0 ∨
          overflow ≤ q.number) ∧
      ((clustersMemoryToBytes q.text = none ∨
          clustersMemoryToBytes q.text = some (.finite q.value)) ↔ q.MilliApart) ∧
      ((syncCpuToCores q.text = .finite 0 ∨ syncCpuToCores q.text = .finite q.value) ↔
        q.suffix.isKnownToSync = true ∨ q.number = 0 ∨ overflow ≤ q.number) ∧
      ((syncMemoryToBytes q.text = .finite 0 ∨ syncMemoryToBytes q.text = .finite q.value) ↔
        q.MilliApart)) ∧
    ((∀ cores, clustersCpuToCores value = some cores → syncCpuToCores value ≠ .finite 0 →
        cores = syncCpuToCores value) ↔
      (∀ c ∈ cpuUnits, (trimChars value).getLast? ≠ some c) ∨
        ∀ x, parseFloat (trimChars value) = .finite x → x = 0) ∧
    ∀ bytes, clustersMemoryToBytes value = some bytes → syncMemoryToBytes value = bytes := by
  constructor
  · refine ⟨clustersCpu_exact_iff q, clustersMemory_exact_iff q, syncCpu_exact_iff q, ?_⟩
    exact syncMemory_exact_iff q
  · exact ⟨cpu_agree_iff value, fun bytes h => memory_agree h⟩

def five (unit : SiSuffix) : Quantity where
  plus := false
  whole := ['5']
  fraction := none
  suffix := .si unit
  digits := List.forall_mem_singleton.mpr (by decide)
  nonempty := by decide

/-- Binary units of processors and thousandths of bytes are misread, and a kilo of processors is
none to one service and five to the other. -/
theorem misread_quantities :
    (five .kibi).value = 5120 ∧ clustersCpuToCores (five .kibi).text = some (.finite 5) ∧
    (five .milli).value = 1 / 200 ∧
    clustersMemoryToBytes (five .milli).text = some (.finite 5000000) ∧
    syncMemoryToBytes (five .milli).text = .finite 5000000 ∧
    (five .nano).value = 1 / 200000000 ∧ syncCpuToCores (five .nano).text = .finite 5 ∧
    clustersCpuToCores (five .kilo).text = some (.finite 5000) ∧
    syncCpuToCores (five .kilo).text = .finite 5 := by
  refine ⟨?_, ?_, ?_, ?_, ?_, ?_, ?_, ?_, ?_⟩ <;> decide +kernel

end KubeNova.Clusters
