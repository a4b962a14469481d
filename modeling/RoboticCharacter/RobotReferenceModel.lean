import RoboticCharacter.PythonMath
import Mathlib.Algebra.Order.Ring.Cast
import Mathlib.Tactic.NormNum

/-! The reference profile of the simulated arm, and the check of a joint vector against it. -/
namespace RoboticCharacter

/-- The four names a profile must have. -/
inductive JointName
  | base
  | shoulder
  | elbow
  | gripper
  deriving DecidableEq, Repr

def JointName.name : JointName → String
  | base => "base"
  | shoulder => "shoulder"
  | elbow => "elbow"
  | gripper => "gripper"

theorem JointName.name_injective (a b : JointName) (h : a.name = b.name) : a = b := by
  cases a <;> cases b <;> first | rfl | exact absurd h (by decide)

/-- A joint of the profile, with the checks of its fields and of `validate_range`. -/
structure ReferenceJoint (K : Type*) [Zero K] [LT K] where
  protocolId : ℕ
  lowerDeg : K
  upperDeg : K
  homeDeg : K
  maxVelocityDegS : K
  maxAccelerationDegS2 : K
  protocolId_ge : 1 ≤ protocolId
  protocolId_le : protocolId ≤ 255
  maxVelocity_pos : 0 < maxVelocityDegS
  maxAcceleration_pos : 0 < maxAccelerationDegS2
  lower_lt_home : lowerDeg < homeDeg
  home_lt_upper : homeDeg < upperDeg

/-- The joints in the order of the mapping they were loaded from, with the checks of
`validate_joint_set`. -/
structure ReferenceRobotProfile (K : Type*) [Zero K] [LT K] where
  joints : JointName → ReferenceJoint K
  order : List JointName
  order_nodup : order.Nodup
  order_complete : ∀ name, name ∈ order
  ids_unique : ∀ a b, (joints a).protocolId = (joints b).protocolId → a = b

structure RobotModel (K : Type*) [Zero K] [LT K] where
  profile : ReferenceRobotProfile K

/-- The refusal of a joint vector. A vector here has every joint and finite values, so
only the ranges can refuse it. -/
structure RobotModelError (K : Type*) where
  name : JointName
  value : K
  lowerDeg : K
  upperDeg : K

namespace RobotModel
variable {K : Type*} [Zero K] [LinearOrder K]

def joint (m : RobotModel K) (name : JointName) : ReferenceJoint K := m.profile.joints name

def jointNames (m : RobotModel K) : List JointName := m.profile.order

def home (m : RobotModel K) (name : JointName) : K := (m.joint name).homeDeg

def Contains (m : RobotModel K) (jointsDeg : JointName → K) (name : JointName) : Prop :=
  (m.joint name).lowerDeg ≤ jointsDeg name ∧ jointsDeg name ≤ (m.joint name).upperDeg

instance (m : RobotModel K) (jointsDeg : JointName → K) :
    DecidablePred (m.Contains jointsDeg) :=
  fun _ => inferInstanceAs (Decidable (_ ∧ _))

/-- The first joint, in the order of the vector, that is outside its range is the one named. -/
def validateJointPositions (m : RobotModel K) (jointsDeg : JointName → K) :
    Except (RobotModelError K) Unit :=
  match m.jointNames.find? (fun name => ¬ m.Contains jointsDeg name) with
  | some name =>
    .error ⟨name, jointsDeg name, (m.joint name).lowerDeg, (m.joint name).upperDeg⟩
  | none => .ok ()

def WithinLimits (m : RobotModel K) (jointsDeg : JointName → K) : Prop :=
  ∀ name, m.Contains jointsDeg name

theorem validateJointPositions_eq_ok_iff (m : RobotModel K) (jointsDeg : JointName → K)
    (u : Unit) : m.validateJointPositions jointsDeg = .ok u ↔ m.WithinLimits jointsDeg := by
  unfold validateJointPositions
  cases hfind : m.jointNames.find? (fun name => ¬ m.Contains jointsDeg name) with
  | none =>
    have hnone := List.find?_eq_none.mp hfind
    simp only [decide_not, Bool.not_eq_true', decide_eq_false_iff_not, not_not] at hnone
    exact iff_of_true rfl (fun name => hnone name (m.profile.order_complete name))
  | some name =>
    have hsome := List.find?_some hfind
    simp only [decide_not, Bool.not_eq_true', decide_eq_false_iff_not] at hsome
    simp only [reduceCtorEq, false_iff]
    exact fun h => hsome (h name)

theorem withinLimits_home (m : RobotModel K) : m.WithinLimits m.home :=
  fun name => ⟨(m.joint name).lower_lt_home.le, (m.joint name).home_lt_upper.le⟩

end RobotModel

/-! The repository's own profile, `configs/simulation/reference_arm.yaml`. -/
section ReferenceArm

/-- A joint as the file writes it. -/
structure JointRow where
  protocolId : ℕ
  lowerDeg : ℤ
  upperDeg : ℤ
  homeDeg : ℤ
  maxVelocityDegS : ℤ
  maxAccelerationDegS2 : ℤ

structure JointRow.Valid (row : JointRow) : Prop where
  protocolId_ge : 1 ≤ row.protocolId
  protocolId_le : row.protocolId ≤ 255
  maxVelocity_pos : 0 < row.maxVelocityDegS
  maxAcceleration_pos : 0 < row.maxAccelerationDegS2
  lower_lt_home : row.lowerDeg < row.homeDeg
  home_lt_upper : row.homeDeg < row.upperDeg

def referenceRow : JointName → JointRow
  | .base => ⟨1, -135, 135, 0, 45, 120⟩
  | .shoulder => ⟨2, -60, 120, 30, 40, 100⟩
  | .elbow => ⟨3, -135, 135, 60, 45, 120⟩
  | .gripper => ⟨4, 0, 70, 20, 35, 90⟩

theorem referenceRow_valid (name : JointName) : (referenceRow name).Valid := by
  cases name <;> constructor <;> decide

theorem referenceRow_ids (a b : JointName)
    (h : (referenceRow a).protocolId = (referenceRow b).protocolId) : a = b := by
  cases a <;> cases b <;> first | rfl | cases h

def referenceOrder : List JointName := [.base, .shoulder, .elbow, .gripper]

theorem referenceOrder_nodup : referenceOrder.Nodup := by decide

theorem referenceOrder_complete (name : JointName) : name ∈ referenceOrder := by
  cases name <;> decide

variable (K : Type) [Field K] [LinearOrder K] [IsStrictOrderedRing K]

def JointRow.toJoint (row : JointRow) (h : row.Valid) : ReferenceJoint K where
  protocolId := row.protocolId
  lowerDeg := row.lowerDeg
  upperDeg := row.upperDeg
  homeDeg := row.homeDeg
  maxVelocityDegS := row.maxVelocityDegS
  maxAccelerationDegS2 := row.maxAccelerationDegS2
  protocolId_ge := h.protocolId_ge
  protocolId_le := h.protocolId_le
  maxVelocity_pos := Int.cast_pos.mpr h.maxVelocity_pos
  maxAcceleration_pos := Int.cast_pos.mpr h.maxAcceleration_pos
  lower_lt_home := Int.cast_lt.mpr h.lower_lt_home
  home_lt_upper := Int.cast_lt.mpr h.home_lt_upper

def referenceArm : RobotModel K where
  profile := {
    joints := fun name => (referenceRow name).toJoint K (referenceRow_valid name)
    order := referenceOrder
    order_nodup := referenceOrder_nodup
    order_complete := referenceOrder_complete
    ids_unique := referenceRow_ids }

end ReferenceArm
end RoboticCharacter
