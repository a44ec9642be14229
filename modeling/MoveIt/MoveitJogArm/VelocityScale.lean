import Mathlib.Analysis.SpecialFunctions.Pow.Real

namespace MoveIt.MoveitJogArm

/-! # The collision velocity scale

The scale `CollisionCheckThread::run` publishes, over the reals: `0` on a contact, and below
each proximity threshold an exponential fall-off `exp(k * (d - T))` with `k = -log(0.001) / T`,
the smaller of the terms winning.
-/

noncomputable section

/-- The options of `moveit_jog_arm::JogArmParameters` that the scale reads. -/
structure JogArmParameters where
  selfCollisionProximityThreshold : ℝ
  sceneCollisionProximityThreshold : ℝ

/-- `-log(0.001) / threshold`: the coefficients the constructor sets. -/
def velocityScaleCoefficient (threshold : ℝ) : ℝ := -Real.log 0.001 / threshold

/-- One check's step of `run`: below the threshold the scale becomes the smaller of itself and
`exp(coefficient * (distance - threshold))`. -/
def decelerate (coefficient threshold distance scale : ℝ) : ℝ :=
  if distance < threshold then min scale (Real.exp (coefficient * (distance - threshold)))
  else scale

/-- The `velocity_scale_` of `run`: `1`, or `0` on a detected contact, then the scene and the
self check in turn. -/
def velocityScale (params : JogArmParameters) (collisionDetected : Bool)
    (sceneCollisionDistance selfCollisionDistance : ℝ) : ℝ :=
  let scale : ℝ := if collisionDetected then 0 else 1
  let scale := decelerate (velocityScaleCoefficient params.sceneCollisionProximityThreshold)
    params.sceneCollisionProximityThreshold sceneCollisionDistance scale
  decelerate (velocityScaleCoefficient params.selfCollisionProximityThreshold)
    params.selfCollisionProximityThreshold selfCollisionDistance scale

section Decelerate

variable {coefficient threshold distance scale : ℝ}

theorem velocityScaleCoefficient_pos (positive : 0 < threshold) :
    0 < velocityScaleCoefficient threshold :=
  div_pos (neg_pos.mpr (Real.log_neg (by norm_num) (by norm_num))) positive

theorem decelerate_le : decelerate coefficient threshold distance scale ≤ scale := by
  unfold decelerate
  split_ifs
  · exact min_le_left _ _
  · exact le_rfl

theorem decelerate_of_le (far : threshold ≤ distance) :
    decelerate coefficient threshold distance scale = scale :=
  if_neg (not_lt.mpr far)

theorem decelerate_pos (positive : 0 < scale) :
    0 < decelerate coefficient threshold distance scale := by
  unfold decelerate
  split_ifs
  · exact lt_min positive (Real.exp_pos _)
  · exact positive

theorem decelerate_nonneg (nonneg : 0 ≤ scale) :
    0 ≤ decelerate coefficient threshold distance scale := by
  unfold decelerate
  split_ifs
  · exact le_min nonneg (Real.exp_pos _).le
  · exact nonneg

theorem decelerate_lt_one (positive : 0 < coefficient) (near : distance < threshold) : decelerate coefficient threshold distance scale < 1 := by
  rw [decelerate, if_pos near]
  exact (min_le_right _ _).trans_lt
    (Real.exp_lt_one_iff.mpr (mul_neg_of_pos_of_neg positive (sub_neg.mpr near)))

theorem decelerate_mono_scale (coefficient threshold distance : ℝ) :
    Monotone (decelerate coefficient threshold distance) := by
  intro lower upper below
  unfold decelerate
  split_ifs
  · exact min_le_min_right _ below
  · exact below

theorem decelerate_mono_distance (nonneg : 0 ≤ coefficient) (threshold scale : ℝ) :
    Monotone fun distance => decelerate coefficient threshold distance scale := by
  intro nearer farther closer
  simp only [decelerate]
  split_ifs with nearActive farActive farActive
  · exact min_le_min_left _ (Real.exp_le_exp.mpr
      (mul_le_mul_of_nonneg_left (sub_le_sub_right closer _) nonneg))
  · exact min_le_left _ _
  · exact absurd (closer.trans_lt farActive) nearActive
  · exact le_rfl

/-- The term `exp(k * (d - T))` is `0.001 ^ ((T - d) / T)`. -/
theorem exp_term_eq_rpow (positive : 0 < threshold) (distance : ℝ) :
    Real.exp (velocityScaleCoefficient threshold * (distance - threshold)) =
      (0.001 : ℝ) ^ ((threshold - distance) / threshold) := by
  rw [Real.rpow_def_of_pos (by norm_num), velocityScaleCoefficient]
  congr 1
  field_simp
  ring

end Decelerate

section Scale

variable (params : JogArmParameters) {collisionDetected : Bool}
  {sceneCollisionDistance selfCollisionDistance : ℝ}

theorem velocityScale_eq : velocityScale params collisionDetected sceneCollisionDistance
    selfCollisionDistance =
    decelerate (velocityScaleCoefficient params.selfCollisionProximityThreshold)
      params.selfCollisionProximityThreshold selfCollisionDistance
      (decelerate (velocityScaleCoefficient params.sceneCollisionProximityThreshold)
        params.sceneCollisionProximityThreshold sceneCollisionDistance
        (if collisionDetected then 0 else 1)) := rfl

theorem velocityScale_nonneg :
    0 ≤ velocityScale params collisionDetected sceneCollisionDistance selfCollisionDistance := by
  rw [velocityScale_eq]
  exact decelerate_nonneg (decelerate_nonneg (by split_ifs <;> norm_num))

theorem velocityScale_le_one :
    velocityScale params collisionDetected sceneCollisionDistance selfCollisionDistance ≤ 1 := by
  rw [velocityScale_eq]
  exact decelerate_le.trans (decelerate_le.trans (by split_ifs <;> norm_num))

theorem velocityScale_eq_zero_iff :
    velocityScale params collisionDetected sceneCollisionDistance selfCollisionDistance = 0 ↔
      collisionDetected = true := by
  cases collisionDetected
  · rw [velocityScale_eq]
    simpa using (decelerate_pos (decelerate_pos one_pos)).ne'
  · refine iff_of_true (le_antisymm ?_ (velocityScale_nonneg params)) rfl
    rw [velocityScale_eq]
    exact decelerate_le.trans (decelerate_le.trans le_rfl)

theorem velocityScale_eq_one_iff (scenePositive : 0 < params.sceneCollisionProximityThreshold)
    (selfPositive : 0 < params.selfCollisionProximityThreshold) :
    velocityScale params collisionDetected sceneCollisionDistance selfCollisionDistance = 1 ↔
      collisionDetected = false ∧ params.sceneCollisionProximityThreshold ≤ sceneCollisionDistance ∧
        params.selfCollisionProximityThreshold ≤ selfCollisionDistance := by
  cases collisionDetected
  · rw [velocityScale_eq]
    constructor
    · intro one
      simp only [Bool.false_eq_true, if_false] at one
      by_contra near
      simp only [true_and, not_and_or, not_le] at near
      rcases near with sceneNear | selfNear
      · exact absurd one (ne_of_lt (decelerate_le.trans_lt
          (decelerate_lt_one (velocityScaleCoefficient_pos scenePositive) sceneNear)))
      · exact absurd one (ne_of_lt
          (decelerate_lt_one (velocityScaleCoefficient_pos selfPositive) selfNear))
    · rintro ⟨-, sceneFar, selfFar⟩
      simp [decelerate_of_le sceneFar, decelerate_of_le selfFar]
  · refine iff_of_false ?_ (by simp)
    rw [(velocityScale_eq_zero_iff params).mpr rfl]
    exact zero_ne_one

theorem velocityScale_mono_scene (scenePositive : 0 < params.sceneCollisionProximityThreshold)
    (collisionDetected : Bool) (selfCollisionDistance : ℝ) :
    Monotone fun sceneCollisionDistance =>
      velocityScale params collisionDetected sceneCollisionDistance selfCollisionDistance :=
  (decelerate_mono_scale _ _ _).comp
    (decelerate_mono_distance (velocityScaleCoefficient_pos scenePositive).le _ _)

theorem velocityScale_mono_self (selfPositive : 0 < params.selfCollisionProximityThreshold)
    (collisionDetected : Bool) (sceneCollisionDistance : ℝ) :
    Monotone fun selfCollisionDistance =>
      velocityScale params collisionDetected sceneCollisionDistance selfCollisionDistance :=
  decelerate_mono_distance (velocityScaleCoefficient_pos selfPositive).le _ _

/-- With no contact and the self check clear, the scale is the scene term. -/
theorem velocityScale_scene_term (scenePositive : 0 < params.sceneCollisionProximityThreshold)
    (selfFar : params.selfCollisionProximityThreshold ≤ selfCollisionDistance)
    (sceneNear : sceneCollisionDistance < params.sceneCollisionProximityThreshold) :
    velocityScale params false sceneCollisionDistance selfCollisionDistance =
      (0.001 : ℝ) ^ ((params.sceneCollisionProximityThreshold - sceneCollisionDistance) /
        params.sceneCollisionProximityThreshold) := by
  have below := Real.exp_lt_one_iff.mpr (mul_neg_of_pos_of_neg
    (velocityScaleCoefficient_pos scenePositive) (sub_neg.mpr sceneNear))
  rw [velocityScale_eq, decelerate_of_le selfFar, decelerate, if_pos sceneNear, if_neg (by simp),
    min_eq_right below.le, exp_term_eq_rpow scenePositive]

/-- With no contact and the scene check clear, the scale is the self term. -/
theorem velocityScale_self_term (selfPositive : 0 < params.selfCollisionProximityThreshold)
    (sceneFar : params.sceneCollisionProximityThreshold ≤ sceneCollisionDistance)
    (selfNear : selfCollisionDistance < params.selfCollisionProximityThreshold) :
    velocityScale params false sceneCollisionDistance selfCollisionDistance =
      (0.001 : ℝ) ^ ((params.selfCollisionProximityThreshold - selfCollisionDistance) /
        params.selfCollisionProximityThreshold) := by
  have below := Real.exp_lt_one_iff.mpr (mul_neg_of_pos_of_neg
    (velocityScaleCoefficient_pos selfPositive) (sub_neg.mpr selfNear))
  rw [velocityScale_eq, decelerate_of_le sceneFar, if_neg (by simp), decelerate, if_pos selfNear,
    min_eq_right below.le, exp_term_eq_rpow selfPositive]

theorem exp_term_at_threshold_and_zero {threshold : ℝ} (positive : 0 < threshold) :
    Real.exp (velocityScaleCoefficient threshold * (threshold - threshold)) = 1 ∧
      Real.exp (velocityScaleCoefficient threshold * (0 - threshold)) = 0.001 := by
  refine ⟨by simp, ?_⟩
  rw [exp_term_eq_rpow positive, sub_zero, div_self positive.ne', Real.rpow_one]

/-- The scale published by `run`, for positive proximity thresholds: within `[0, 1]`, `0`
exactly on a contact, `1` exactly when no contact is reported and both distances are at or
beyond their thresholds, non-decreasing in each distance, and a single active term is
`0.001 ^ ((T - d) / T)`, which is `1` at `d = T` and `0.001` at `d = 0`. -/
theorem velocityScale_spec (scenePositive : 0 < params.sceneCollisionProximityThreshold)
    (selfPositive : 0 < params.selfCollisionProximityThreshold) :
    (∀ collisionDetected sceneCollisionDistance selfCollisionDistance,
      0 ≤ velocityScale params collisionDetected sceneCollisionDistance selfCollisionDistance ∧
      velocityScale params collisionDetected sceneCollisionDistance selfCollisionDistance ≤ 1 ∧
      (velocityScale params collisionDetected sceneCollisionDistance selfCollisionDistance = 0 ↔
        collisionDetected = true) ∧
      (velocityScale params collisionDetected sceneCollisionDistance selfCollisionDistance = 1 ↔
        collisionDetected = false ∧
          params.sceneCollisionProximityThreshold ≤ sceneCollisionDistance ∧
          params.selfCollisionProximityThreshold ≤ selfCollisionDistance)) ∧
    (∀ collisionDetected selfCollisionDistance, Monotone fun sceneCollisionDistance =>
      velocityScale params collisionDetected sceneCollisionDistance selfCollisionDistance) ∧
    (∀ collisionDetected sceneCollisionDistance, Monotone fun selfCollisionDistance =>
      velocityScale params collisionDetected sceneCollisionDistance selfCollisionDistance) ∧
    (∀ sceneCollisionDistance selfCollisionDistance,
      params.selfCollisionProximityThreshold ≤ selfCollisionDistance →
      sceneCollisionDistance < params.sceneCollisionProximityThreshold →
      velocityScale params false sceneCollisionDistance selfCollisionDistance =
        (0.001 : ℝ) ^ ((params.sceneCollisionProximityThreshold - sceneCollisionDistance) /
          params.sceneCollisionProximityThreshold)) ∧
    (∀ sceneCollisionDistance selfCollisionDistance,
      params.sceneCollisionProximityThreshold ≤ sceneCollisionDistance →
      selfCollisionDistance < params.selfCollisionProximityThreshold →
      velocityScale params false sceneCollisionDistance selfCollisionDistance =
        (0.001 : ℝ) ^ ((params.selfCollisionProximityThreshold - selfCollisionDistance) /
          params.selfCollisionProximityThreshold)) ∧
    (∀ threshold : ℝ, 0 < threshold →
      Real.exp (velocityScaleCoefficient threshold * (threshold - threshold)) = 1 ∧
      Real.exp (velocityScaleCoefficient threshold * (0 - threshold)) = 0.001) :=
  ⟨fun _ _ _ => ⟨velocityScale_nonneg params, velocityScale_le_one params,
      velocityScale_eq_zero_iff params, velocityScale_eq_one_iff params scenePositive selfPositive⟩,
    velocityScale_mono_scene params scenePositive, velocityScale_mono_self params selfPositive,
    fun _ _ selfFar sceneNear => velocityScale_scene_term params scenePositive selfFar sceneNear,
    fun _ _ sceneFar selfNear => velocityScale_self_term params selfPositive sceneFar selfNear,
    fun _ positive => exp_term_at_threshold_and_zero positive⟩

end Scale

theorem velocityScale_spec_at_tenth :
    let params : JogArmParameters := ⟨0.1, 0.1⟩
    0 < params.sceneCollisionProximityThreshold ∧ 0 < params.selfCollisionProximityThreshold ∧
    (∀ collisionDetected sceneCollisionDistance selfCollisionDistance,
        0 ≤ velocityScale params collisionDetected sceneCollisionDistance selfCollisionDistance ∧
        velocityScale params collisionDetected sceneCollisionDistance selfCollisionDistance ≤ 1 ∧
        (velocityScale params collisionDetected sceneCollisionDistance selfCollisionDistance = 0 ↔
          collisionDetected = true) ∧
        (velocityScale params collisionDetected sceneCollisionDistance selfCollisionDistance = 1 ↔
          collisionDetected = false ∧
            params.sceneCollisionProximityThreshold ≤ sceneCollisionDistance ∧
            params.selfCollisionProximityThreshold ≤ selfCollisionDistance)) ∧
      (∀ collisionDetected selfCollisionDistance, Monotone fun sceneCollisionDistance =>
        velocityScale params collisionDetected sceneCollisionDistance selfCollisionDistance) ∧
      (∀ collisionDetected sceneCollisionDistance, Monotone fun selfCollisionDistance =>
        velocityScale params collisionDetected sceneCollisionDistance selfCollisionDistance) ∧
      (∀ sceneCollisionDistance selfCollisionDistance,
        params.selfCollisionProximityThreshold ≤ selfCollisionDistance →
        sceneCollisionDistance < params.sceneCollisionProximityThreshold →
        velocityScale params false sceneCollisionDistance selfCollisionDistance =
          (0.001 : ℝ) ^ ((params.sceneCollisionProximityThreshold - sceneCollisionDistance) /
            params.sceneCollisionProximityThreshold)) ∧
      (∀ sceneCollisionDistance selfCollisionDistance,
        params.sceneCollisionProximityThreshold ≤ sceneCollisionDistance →
        selfCollisionDistance < params.selfCollisionProximityThreshold →
        velocityScale params false sceneCollisionDistance selfCollisionDistance =
          (0.001 : ℝ) ^ ((params.selfCollisionProximityThreshold - selfCollisionDistance) /
            params.selfCollisionProximityThreshold)) ∧
      (∀ threshold : ℝ, 0 < threshold →
        Real.exp (velocityScaleCoefficient threshold * (threshold - threshold)) = 1 ∧
        Real.exp (velocityScaleCoefficient threshold * (0 - threshold)) = 0.001) :=
  ⟨by norm_num, by norm_num, velocityScale_spec ⟨0.1, 0.1⟩ (by norm_num) (by norm_num)⟩

end

end MoveIt.MoveitJogArm
