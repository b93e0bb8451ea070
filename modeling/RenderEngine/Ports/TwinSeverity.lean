import Mathlib.Order.Lattice
import RenderEngine.Ports.JavaScript
import RenderEngine.Verified.Doubles

/-!
# The severity of a cell (`demo/twin_overlay.js`)

`classifyCell` looks at a reported anomaly and at three measurements.  An active
anomaly decides alone, so that one that is not critical hides measurements that
are.  A nominal load or voltage class of zero is outside of the model: in the
rationals `x / 0` is zero, where JavaScript has infinities and NaN.

## Main results

* `classifyCell_eq_worst_iff`: when the severity is that of the worst signal.
* `classifyCell_mono_iff`: when a payload that is worse in every respect has no
  lower severity.
-/

namespace RenderEngine.Ports.TwinSeverity

open RenderEngine.Ports.JavaScript
open RenderEngine.Verified.Doubles

/-! ## Severities -/

inductive Severity where
  | ok
  | warning
  | critical
  deriving DecidableEq

namespace Severity

def rank : Severity → Nat
  | ok => 0
  | warning => 1
  | critical => 2

theorem rank_injective : Function.Injective rank := by
  intro a b h
  cases a <;> cases b <;> first | rfl | cases h

instance : LinearOrder Severity := LinearOrder.lift' rank rank_injective

theorem le_critical (s : Severity) : s ≤ critical := by
  cases s <;> decide

theorem ok_le (s : Severity) : ok ≤ s := by
  cases s <;> decide

end Severity

/-! ## Payloads -/

/-- What `classifyCell` reads of a payload; its numbers are doubles. -/
structure Payload (F : Type) where
  anomalyActive : JsValue F
  anomalySeverity : JsValue F
  loadMw : ℚ
  nominalLoadMw : ℚ
  voltageKv : ℚ
  voltageClass : ℚ
  temperatureCelsius : ℚ

/-- Bounds on the fraction of the nominal load, on the deviation from the
voltage class and on the temperature. -/
structure Bounds where
  load : ℚ
  voltDev : ℚ
  temp : ℚ

/-- `loadCritical`, `voltDevCrit` and `tempCrit` of `THRESHOLDS`. -/
def criticalBounds : Bounds := ⟨1.15, 0.06, 60⟩

/-- `loadWarning`, `voltDevWarn` and `tempWarn` of `THRESHOLDS`. -/
def warningBounds : Bounds := ⟨1.00, 0.04, 55⟩

/-- `=== 'critical'` -/
def isCritical {F : Type} : JsValue F → Bool
  | .string s => s = js "critical"
  | _ => false

section Classify

variable {F : Type} (R : NearestRounding)

namespace Payload

/-- `load_mw / nominal_load_mw` -/
def loadFrac (p : Payload F) : ℚ := R.div p.loadMw p.nominalLoadMw

/-- `Math.abs(voltage_kv - voltage_class) / voltage_class` -/
def voltDev (p : Payload F) : ℚ :=
  R.div |R.sub p.voltageKv p.voltageClass| p.voltageClass

/-- One of the measurements exceeds its bound; the bounds are literals. -/
def Exceeds (p : Payload F) (b : Bounds) : Prop :=
  p.loadFrac R > R.round b.load ∨ p.voltDev R > R.round b.voltDev ∨
    p.temperatureCelsius > R.round b.temp

instance (p : Payload F) (b : Bounds) : Decidable (p.Exceeds R b) :=
  inferInstanceAs (Decidable (_ ∨ _ ∨ _))

/-- An active anomaly. -/
def HasAnomaly (p : Payload F) : Prop := p.anomalyActive.truthy = true

instance (p : Payload F) : Decidable p.HasAnomaly :=
  inferInstanceAs (Decidable (_ = _))

/-- An active anomaly that is critical. -/
def HasCriticalAnomaly (p : Payload F) : Prop :=
  p.HasAnomaly ∧ isCritical p.anomalySeverity = true

end Payload

/-- `classifyCell`. -/
def classifyCell (p : Payload F) : Severity :=
  if p.HasAnomaly then
    if isCritical p.anomalySeverity then .critical else .warning
  else if p.Exceeds R criticalBounds then .critical
  else if p.Exceeds R warningBounds then .warning
  else .ok

/-! ## The worst signal -/

/-- The severity of the reported anomaly. -/
def anomalySignal (p : Payload F) : Severity :=
  if p.HasAnomaly then
    if isCritical p.anomalySeverity then .critical else .warning
  else .ok

/-- The severity of the measurements. -/
def measuredSignal (p : Payload F) : Severity :=
  if p.Exceeds R criticalBounds then .critical
  else if p.Exceeds R warningBounds then .warning
  else .ok

/-- The worse of the two. -/
def worstSignal (p : Payload F) : Severity :=
  max (anomalySignal p) (measuredSignal R p)

/-- The second payload is at least as bad in every respect. -/
structure Dominates (p q : Payload F) : Prop where
  nominalLoad : p.nominalLoadMw = q.nominalLoadMw
  nominalLoad_pos : 0 < p.nominalLoadMw
  voltageClass : p.voltageClass = q.voltageClass
  voltageClass_pos : 0 < p.voltageClass
  load : p.loadMw ≤ q.loadMw
  voltage : |p.voltageKv - p.voltageClass| ≤ |q.voltageKv - q.voltageClass|
  temperature : p.temperatureCelsius ≤ q.temperatureCelsius
  anomaly : p.HasAnomaly → q.HasAnomaly
  criticalAnomaly : p.HasCriticalAnomaly → q.HasCriticalAnomaly

theorem classifyCell_eq (p : Payload F) :
    classifyCell R p =
      if p.HasAnomaly then anomalySignal p else measuredSignal R p := by
  unfold classifyCell anomalySignal measuredSignal
  split <;> rfl

/-! ## Each signal is monotone -/

section

variable {p q : Payload F}

theorem Dominates.exceeds (h : Dominates p q) {b : Bounds}
    (hp : p.Exceeds R b) : q.Exceeds R b := by
  rcases hp with hload | hvolt | htemp
  · have hfrac : p.loadFrac R ≤ q.loadFrac R := by
      rw [Payload.loadFrac, Payload.loadFrac, ← h.nominalLoad]
      exact R.div_mono h.nominalLoad_pos h.load
    exact .inl (hload.trans_le hfrac)
  · have hdev : p.voltDev R ≤ q.voltDev R := by
      have hdist := R.abs_sub_mono h.voltage
      rw [← h.voltageClass] at hdist
      rw [Payload.voltDev, Payload.voltDev, ← h.voltageClass]
      exact R.div_mono h.voltageClass_pos hdist
    exact .inr (.inl (hvolt.trans_le hdev))
  · exact .inr (.inr (htemp.trans_le h.temperature))

theorem Dominates.measuredSignal_le (h : Dominates p q) :
    measuredSignal R p ≤ measuredSignal R q := by
  unfold measuredSignal
  by_cases hcritical : p.Exceeds R criticalBounds
  · rw [if_pos hcritical, if_pos (h.exceeds R hcritical)]
  · rw [if_neg hcritical]
    by_cases hwarning : p.Exceeds R warningBounds
    · rw [if_pos hwarning, if_pos (h.exceeds R hwarning)]
      split <;> decide
    · rw [if_neg hwarning]
      exact Severity.ok_le _

theorem Dominates.anomalySignal_le (h : Dominates p q) :
    anomalySignal p ≤ anomalySignal q := by
  unfold anomalySignal
  by_cases hp : p.HasAnomaly
  · rw [if_pos hp, if_pos (h.anomaly hp)]
    by_cases hcritical : isCritical p.anomalySeverity = true
    · rw [if_pos hcritical, if_pos (h.criticalAnomaly ⟨hp, hcritical⟩).2]
    · rw [if_neg hcritical]
      split <;> decide
  · rw [if_neg hp]
    exact Severity.ok_le _

/-- What the worst signal says is monotone. -/
theorem Dominates.worstSignal_le (h : Dominates p q) :
    worstSignal R p ≤ worstSignal R q :=
  max_le_max h.anomalySignal_le (h.measuredSignal_le R)

end

/-! ## What an anomaly hides -/

theorem measuredSignal_eq_critical_iff (p : Payload F) :
    measuredSignal R p = .critical ↔ p.Exceeds R criticalBounds := by
  unfold measuredSignal
  by_cases hcritical : p.Exceeds R criticalBounds
  · simp [hcritical]
  · simp only [hcritical, if_false, iff_false]
    split <;> decide

/-- An anomaly that is not critical makes a warning of any measurement. -/
theorem classifyCell_of_noncritical {p : Payload F} (hp : p.HasAnomaly)
    (hcritical : ¬ p.HasCriticalAnomaly) : classifyCell R p = .warning := by
  rw [classifyCell, if_pos hp, if_neg fun h => hcritical ⟨hp, h⟩]

theorem classifyCell_of_critical {p : Payload F}
    (hp : p.HasCriticalAnomaly) : classifyCell R p = .critical := by
  rw [classifyCell, if_pos hp.1, if_pos hp.2]

theorem classifyCell_of_none {p : Payload F} (hp : ¬ p.HasAnomaly) :
    classifyCell R p = measuredSignal R p := by
  rw [classifyCell_eq, if_neg hp]

theorem classifyCell_le_worst (p : Payload F) :
    classifyCell R p ≤ worstSignal R p := by
  rw [classifyCell_eq]
  split
  · exact le_max_left _ _
  · exact le_max_right _ _

/-- An active anomaly that is not critical, over critical measurements. -/
def Payload.Hides (p : Payload F) : Prop :=
  p.HasAnomaly ∧ ¬ p.HasCriticalAnomaly ∧ p.Exceeds R criticalBounds

/-- **The severity is that of the worst signal unless an anomaly hides the
measurements.** -/
theorem classifyCell_eq_worst_iff (p : Payload F) :
    classifyCell R p = worstSignal R p ↔ ¬ p.Hides R := by
  by_cases hp : p.HasAnomaly
  · by_cases hcritical : p.HasCriticalAnomaly
    · have hclass := classifyCell_of_critical R hcritical
      have hle := classifyCell_le_worst R p
      rw [hclass] at hle ⊢
      exact iff_of_true (le_antisymm hle (Severity.le_critical _))
        fun h => h.2.1 hcritical
    · have hsignal : anomalySignal p = .warning := by
        rw [anomalySignal, if_pos hp, if_neg fun h => hcritical ⟨hp, h⟩]
      rw [classifyCell_of_noncritical R hp hcritical, worstSignal, hsignal,
        eq_comm, max_eq_left_iff, Payload.Hides,
        ← measuredSignal_eq_critical_iff]
      cases measuredSignal R p
      · exact iff_of_true (by decide) fun h => nomatch h.2.2
      · exact iff_of_true (by decide) fun h => nomatch h.2.2
      · exact iff_of_false (by decide) fun h => h ⟨hp, hcritical, rfl⟩
  · have hsignal : anomalySignal p = .ok := if_neg hp
    rw [classifyCell_of_none R hp, worstSignal, hsignal,
      max_eq_right (Severity.ok_le _)]
    exact iff_of_true rfl fun h => hp h.1

/-! ## Two payloads -/

/-- The first payload is critical by its measurements and reports no anomaly,
and the second reports one that is not critical. -/
def Masked (p q : Payload F) : Prop :=
  ¬ p.HasAnomaly ∧ p.Exceeds R criticalBounds ∧
    q.HasAnomaly ∧ ¬ q.HasCriticalAnomaly

/-- **A payload that is at least as bad in every respect has at least the
severity, exactly if its anomaly does not mask the measurements.** -/
theorem classifyCell_mono_iff {p q : Payload F} (h : Dominates p q) :
    classifyCell R p ≤ classifyCell R q ↔ ¬ Masked R p q := by
  by_cases hhides : q.Hides R
  · obtain ⟨hq, hqcritical, -⟩ := hhides
    have hpcritical : ¬ p.HasCriticalAnomaly :=
      fun hp => hqcritical (h.criticalAnomaly hp)
    rw [classifyCell_of_noncritical R hq hqcritical]
    by_cases hp : p.HasAnomaly
    · rw [classifyCell_of_noncritical R hp hpcritical]
      exact iff_of_true (le_refl _) fun hmasked => hmasked.1 hp
    · rw [classifyCell_of_none R hp, Masked, ← measuredSignal_eq_critical_iff]
      cases measuredSignal R p
      · exact iff_of_true (by decide) fun hmasked => nomatch hmasked.2.1
      · exact iff_of_true (by decide) fun hmasked => nomatch hmasked.2.1
      · exact iff_of_false (by decide) fun hnot =>
          hnot ⟨hp, rfl, hq, hqcritical⟩
  · refine iff_of_true ?_ ?_
    · calc classifyCell R p ≤ worstSignal R p := classifyCell_le_worst R p
        _ ≤ worstSignal R q := h.worstSignal_le R
        _ = classifyCell R q := ((classifyCell_eq_worst_iff R q).mpr hhides).symm
    · rintro ⟨-, hexceeds, hq, hqcritical⟩
      exact hhides ⟨hq, hqcritical, h.exceeds R hexceeds⟩

end Classify

/-! ## An overloaded cell -/

/-- A cell at a fifth over its nominal load. -/
def overloaded : Payload Empty where
  anomalyActive := .bool false
  anomalySeverity := .null
  loadMw := 120
  nominalLoadMw := 100
  voltageKv := 132
  voltageClass := 132
  temperatureCelsius := 40

/-- The same cell with an anomaly that is not critical. -/
def anomalous : Payload Empty :=
  { overloaded with
    anomalyActive := .bool true
    anomalySeverity := .string (js "warning") }

/-- The same cell with a critical anomaly. -/
def alarming : Payload Empty :=
  { anomalous with anomalySeverity := .string (js "critical") }

theorem dominates_anomalous (anomalySeverity : JsValue Empty) :
    Dominates overloaded { anomalous with anomalySeverity } where
  nominalLoad := rfl
  nominalLoad_pos := by decide
  voltageClass := rfl
  voltageClass_pos := by decide
  load := le_refl _
  voltage := le_refl _
  temperature := le_refl _
  anomaly := fun h => nomatch h
  criticalAnomaly := fun h => nomatch h.1

theorem classifyCell_alarming :
    classifyCell NearestRounding.exact overloaded ≤
      classifyCell NearestRounding.exact alarming := by
  apply (classifyCell_mono_iff NearestRounding.exact
    (dominates_anomalous (.string (js "critical")))).mpr
  rintro ⟨-, -, -, hcritical⟩
  exact hcritical ⟨rfl, by decide⟩

/-- At a fifth over its nominal load the cell is critical, and with an anomaly
as well it is not. -/
theorem not_classifyCell_mono :
    Dominates overloaded anomalous ∧
      classifyCell NearestRounding.exact overloaded = .critical ∧
      classifyCell NearestRounding.exact anomalous = .warning ∧
      ¬ ∀ p q : Payload Empty, Dominates p q →
        classifyCell NearestRounding.exact p ≤
          classifyCell NearestRounding.exact q := by
  have hdominates : Dominates overloaded anomalous := dominates_anomalous _
  have hcritical :
      classifyCell NearestRounding.exact overloaded = .critical := by
    decide +kernel
  have hwarning : classifyCell NearestRounding.exact anomalous = .warning := by
    decide
  refine ⟨hdominates, hcritical, hwarning, fun h => ?_⟩
  have hle := h overloaded anomalous hdominates
  rw [hcritical, hwarning] at hle
  exact absurd hle (by decide)

end RenderEngine.Ports.TwinSeverity
