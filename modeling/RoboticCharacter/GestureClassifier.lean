import RoboticCharacter.Binary64
import RoboticCharacter.Machine
import RoboticCharacter.ProtocolTelemetry

/-! The classifier of the glove's motion gestures: an ordered cascade of threshold tests on
one sample, and a window of the last rolls in which a wave is looked for. -/
namespace RoboticCharacter.Gesture

inductive GestureType
  | unknown
  | tiltLeft
  | tiltRight
  | tiltForward
  | tiltBackward
  | wave
  | flickLeft
  | flickRight
  | rotation
  | hold
  | doubleMovement
  | circularMovement
  deriving DecidableEq, Repr

def GestureType.value : GestureType → String
  | unknown => "unknown"
  | tiltLeft => "tilt_left"
  | tiltRight => "tilt_right"
  | tiltForward => "tilt_forward"
  | tiltBackward => "tilt_backward"
  | wave => "wave"
  | flickLeft => "flick_left"
  | flickRight => "flick_right"
  | rotation => "rotation"
  | hold => "hold"
  | doubleMovement => "double_movement"
  | circularMovement => "circular_movement"

inductive ZeroDivisionError
  | floatDivisionByZero

/-- `x / y` of two floats. -/
def truediv (x y : ExtendedNumber ℚ) : Except ZeroDivisionError (ExtendedNumber ℚ) :=
  if Binary64.isZero y then .error .floatDivisionByZero else .ok (Binary64.div x y)

structure GestureObservation where
  gesture : GestureType
  confidence : ExtendedNumber ℚ
  timestampMs : ℤ
  pitchDeg : ExtendedNumber ℚ
  rollDeg : ExtendedNumber ℚ
  angularSpeedDegS : ExtendedNumber ℚ
  simulation : Bool

inductive ClassifierError
  | thresholdsNotPositive
  | invalidHoldRateOrWaveWindow
  deriving DecidableEq

def ClassifierError.message : ClassifierError → String
  | thresholdsNotPositive => "gesture thresholds must be positive"
  | invalidHoldRateOrWaveWindow => "invalid hold rate or wave window"

structure MotionGestureClassifier where
  tiltThresholdDeg : Binary64.Number
  flickThresholdDegS : Binary64.Number
  rotationThresholdDegS : Binary64.Number
  holdRateDegS : Binary64.Number
  waveWindow : ℕ
  rollHistory : List (ExtendedNumber ℚ)

namespace MotionGestureClassifier

def new (tiltThresholdDeg flickThresholdDegS rotationThresholdDegS holdRateDegS : Binary64.Number)
    (waveWindow : ℤ) : Except ClassifierError MotionGestureClassifier :=
  if ((tiltThresholdDeg.value.min flickThresholdDegS.value).min rotationThresholdDegS.value).le
      (.finite 0) then .error .thresholdsNotPositive
  else if holdRateDegS.value.lt (.finite 0) ∨ waveWindow < 4 then
    .error .invalidHoldRateOrWaveWindow
  else .ok
    { tiltThresholdDeg, flickThresholdDegS, rotationThresholdDegS, holdRateDegS
      waveWindow := waveWindow.toNat
      rollHistory := [] }

/-- `MotionGestureClassifier()`. -/
def default : MotionGestureClassifier where
  tiltThresholdDeg := .ofInt 12 (by norm_num)
  flickThresholdDegS := .ofInt 110 (by norm_num)
  rotationThresholdDegS := .ofInt 90 (by norm_num)
  holdRateDegS := .ofInt 8 (by norm_num)
  waveWindow := 8
  rollHistory := []

example : new default.tiltThresholdDeg default.flickThresholdDegS default.rotationThresholdDegS
    default.holdRateDegS 8 = .ok default := rfl

/-- `append` of the deque: the oldest value goes when there are more than `waveWindow`. -/
def appendRoll (c : MotionGestureClassifier) (roll : ExtendedNumber ℚ) : MotionGestureClassifier :=
  let history := c.rollHistory ++ [roll]
  { c with rollHistory := history.drop (history.length-c.waveWindow) }

def signs (threshold : ExtendedNumber ℚ) (history : List (ExtendedNumber ℚ)) : List ℤ :=
  history.filterMap fun value =>
    if threshold.le value then some 1
    else if value.le threshold.neg then some (-1)
    else none

def transitions (signs : List ℤ) : ℕ := ((signs.zip signs.tail).filter fun p => p.1 ≠ p.2).length

def waveThreshold (c : MotionGestureClassifier) : ExtendedNumber ℚ :=
  Binary64.mul c.tiltThresholdDeg.value (Binary64.round 0.65)

def isWave (c : MotionGestureClassifier) : Bool :=
  if c.rollHistory.length < c.waveWindow then false
  else
    let signs := signs c.waveThreshold c.rollHistory
    if signs.length < 4 then false else decide (3 ≤ transitions signs)

/-- `telemetry.field / 100.0`. -/
def centidegrees (value : ℤ) : ExtendedNumber ℚ :=
  Binary64.div (Binary64.round value) (.finite 100)

/-- The values of one sample that the cascade tests. -/
structure Motion where
  pitch : ExtendedNumber ℚ
  roll : ExtendedNumber ℚ
  gy : ExtendedNumber ℚ
  gz : ExtendedNumber ℚ
  angularSpeed : ExtendedNumber ℚ

def Motion.ofTelemetry (telemetry : GloveTelemetry) : Motion :=
  let gx := centidegrees telemetry.gyroXCdegS
  let gy := centidegrees telemetry.gyroYCdegS
  let gz := centidegrees telemetry.gyroZCdegS
  { pitch := centidegrees telemetry.pitchCdeg
    roll := centidegrees telemetry.rollCdeg
    gy, gz
    angularSpeed := Binary64.sqrt (Binary64.add (Binary64.add (Binary64.mul gx gx)
      (Binary64.mul gy gy)) (Binary64.mul gz gz)) }

/-- `min(1.0, value / (threshold * factor))`. -/
def ratio (value threshold factor : ExtendedNumber ℚ) :
    Except ZeroDivisionError (ExtendedNumber ℚ) := do
  let quotient ← truediv value (Binary64.mul threshold factor)
  return (ExtendedNumber.finite 1).min quotient

/-- A gesture with the confidence that its ratio gives. -/
def scored (gesture : GestureType) (value threshold factor : ExtendedNumber ℚ) :
    Except ZeroDivisionError (GestureType × ExtendedNumber ℚ) := do
  let confidence ← ratio value threshold factor
  return (gesture, confidence)

def flickSide (gy : ExtendedNumber ℚ) : GestureType :=
  if (ExtendedNumber.finite 0).lt gy then .flickRight else .flickLeft

/-- The cascade of `classify`, on a history that holds the roll of the sample. -/
def recognise (c : MotionGestureClassifier) (m : Motion) :
    Except ZeroDivisionError (GestureType × ExtendedNumber ℚ) :=
  let tilt := c.tiltThresholdDeg.value
  let flick := c.flickThresholdDegS.value
  let rotation := c.rotationThresholdDegS.value
  let halfTilt := Binary64.div tilt (.finite 2)
  if c.isWave then .ok (.wave, Binary64.round 0.9)
  else if rotation.le m.gz.abs then scored .rotation m.gz.abs rotation (Binary64.round 1.8)
  else if flick.le m.gy.abs then
    scored (flickSide m.gy) m.gy.abs flick (Binary64.round 1.8)
  else if tilt.le m.roll then scored .tiltRight m.roll tilt (.finite 2)
  else if m.roll.le tilt.neg then scored .tiltLeft m.roll.abs tilt (.finite 2)
  else if tilt.le m.pitch then scored .tiltForward m.pitch tilt (.finite 2)
  else if m.pitch.le tilt.neg then scored .tiltBackward m.pitch.abs tilt (.finite 2)
  else if m.angularSpeed.le c.holdRateDegS.value ∧
      (halfTilt.le m.pitch.abs ∨ halfTilt.le m.roll.abs) then .ok (.hold, Binary64.round 0.7)
  else .ok (.unknown, .finite 0)

/-- A call of `classify`, with its telemetry and its `simulation`. -/
def classify (c : MotionGestureClassifier) (input : GloveTelemetry × Bool) :
    MotionGestureClassifier × Except ZeroDivisionError GestureObservation :=
  let m := Motion.ofTelemetry input.1
  let appended := c.appendRoll m.roll
  (appended, do
    let (gesture, confidence) ← appended.recognise m
    return {
      gesture, confidence
      timestampMs := input.1.deviceTimeMsMod
      pitchDeg := m.pitch
      rollDeg := m.roll
      angularSpeedDegS := m.angularSpeed
      simulation := input.2 })

/-- What a classifier makes of a trace, sample by sample. -/
def observations (c : MotionGestureClassifier) (inputs : List (GloveTelemetry × Bool)) :
    List (Except ZeroDivisionError GestureObservation) :=
  (Machine.trace classify c inputs).map Machine.Event.output

end MotionGestureClassifier
end RoboticCharacter.Gesture
