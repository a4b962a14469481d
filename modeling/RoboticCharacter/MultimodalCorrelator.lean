import RoboticCharacter.GestureMirror
import RoboticCharacter.PythonText

/-! The correlation of words with a motion gesture: one frame of meaning, that takes the gesture
in when the time of its sample is near enough to its own. -/
namespace RoboticCharacter.Multimodal
open ExtendedNumber (finite)
open Gesture (GestureType GestureObservation MotionGestureClassifier)

inductive InteractionMode
  | gesture
  | voice
  | text
  deriving DecidableEq, Repr

structure VoiceTranscript where
  text : String
  confidence : ExtendedNumber ℚ
  simulation : Bool

inductive CorrelationError
  | windowNegative
  | timestampNegative
  | textAndVoice
  | frameEmpty
  | frameTimestampNegative
  | frameConfidence
  deriving DecidableEq, Repr

def CorrelationError.message : CorrelationError → String
  | windowNegative => "gesture correlation window must be non-negative"
  | timestampNegative => "correlation timestamp must be non-negative"
  | textAndVoice => "provide either text or voice transcript, not both"
  | frameEmpty => "MeaningFrame requires text or a gesture"
  | frameTimestampNegative => "MeaningFrame timestamp must be non-negative"
  | frameConfidence => "MeaningFrame confidence must be in [0, 1]"

/-- The arguments of `MeaningFrame(...)`. -/
structure MeaningFields where
  text : String
  mode : InteractionMode
  timestampMs : ℤ
  confidence : ExtendedNumber ℚ
  gesture : Option GestureType
  simulation : Bool

/-- `0.0 <= confidence <= 1.0`. -/
def InUnitInterval (confidence : ExtendedNumber ℚ) : Prop :=
  (finite 0).le confidence = true ∧ confidence.le (finite 1) = true

instance (confidence : ExtendedNumber ℚ) : Decidable (InUnitInterval confidence) :=
  inferInstanceAs (Decidable (_ ∧ _))

structure MeaningFrame extends MeaningFields where
  text_or_gesture : ¬ (PythonText.strip text = "" ∧ gesture = none)
  timestamp_nonneg : ¬ timestampMs < 0
  confidence_unit : InUnitInterval confidence

/-- `__post_init__`. -/
def MeaningFrame.new (fields : MeaningFields) : Except CorrelationError MeaningFrame :=
  if htext : PythonText.strip fields.text = "" ∧ fields.gesture = none then .error .frameEmpty
  else if htime : fields.timestampMs < 0 then .error .frameTimestampNegative
  else if hconfidence : InUnitInterval fields.confidence then
    .ok ⟨fields, htext, htime, hconfidence⟩
  else .error .frameConfidence

structure MultimodalCorrelator where
  gestureCorrelationWindowMs : ℤ
  window_nonneg : ¬ gestureCorrelationWindowMs < 0

namespace MultimodalCorrelator

def new (gestureCorrelationWindowMs : ℤ) : Except CorrelationError MultimodalCorrelator :=
  if h : gestureCorrelationWindowMs < 0 then .error .windowNegative
  else .ok ⟨gestureCorrelationWindowMs, h⟩

/-- `MultimodalCorrelator()`. -/
def default : MultimodalCorrelator := ⟨750, by decide⟩

/-- What `correlate` makes of the words, before it looks at the gesture. -/
structure Words where
  normalizedText : String
  mode : InteractionMode
  confidence : ExtendedNumber ℚ
  simulation : Bool

def Words.read (text : Option String) (voice : Option VoiceTranscript) : Words :=
  match voice, text with
  | some voice, _ => ⟨PythonText.strip voice.text, .voice, voice.confidence, voice.simulation⟩
  | none, some text =>
    if PythonText.strip text = "" then ⟨"", .gesture, finite 0, false⟩
    else ⟨" ".intercalate (PythonText.split text), .text, finite 1, false⟩
  | none, none => ⟨"", .gesture, finite 0, false⟩

/-- The gesture is known, and its age is within the window. -/
def Correlates (m : MultimodalCorrelator) (timestampMs : ℤ) (gesture : GestureObservation) : Prop :=
  gesture.gesture ≠ .unknown ∧
    |timestampMs-gesture.timestampMs| ≤ m.gestureCorrelationWindowMs

instance (m : MultimodalCorrelator) (timestampMs : ℤ) (gesture : GestureObservation) :
    Decidable (m.Correlates timestampMs gesture) := inferInstanceAs (Decidable (_ ∧ _))

def Words.alone (words : Words) (timestampMs : ℤ) : MeaningFields where
  text := words.normalizedText
  mode := words.mode
  timestampMs := timestampMs
  confidence := words.confidence
  gesture := none
  simulation := words.simulation

def Words.withGesture (words : Words) (timestampMs : ℤ) (gesture : GestureObservation) :
    MeaningFields where
  text := words.normalizedText
  mode := words.mode
  timestampMs := timestampMs
  confidence :=
    if words.normalizedText = "" then gesture.confidence
    else words.confidence.min gesture.confidence
  gesture := some gesture.gesture
  simulation := words.simulation || gesture.simulation

def frameFields (m : MultimodalCorrelator) (timestampMs : ℤ) (words : Words) :
    Option GestureObservation → MeaningFields
  | none => words.alone timestampMs
  | some gesture =>
    if m.Correlates timestampMs gesture then words.withGesture timestampMs gesture
    else words.alone timestampMs

def correlate (m : MultimodalCorrelator) (timestampMs : ℤ) (text : Option String)
    (voice : Option VoiceTranscript) (gesture : Option GestureObservation) :
    Except CorrelationError MeaningFrame :=
  if timestampMs < 0 then .error .timestampNegative
  else if text.isSome ∧ voice.isSome then .error .textAndVoice
  else MeaningFrame.new (m.frameFields timestampMs (.read text voice) gesture)

example : (default.correlate 5 (some " turn   left ") none none).toOption.map
    (fun frame => (frame.text, frame.mode)) = some ("turn left", .text) := by decide

/-- A frame is made of the text and the observation, and it has the gesture. -/
def Includes (m : MultimodalCorrelator) (timestampMs : ℤ) (text : String)
    (observation : GestureObservation) : Prop :=
  ∃ frame, m.correlate timestampMs (some text) none (some observation) = .ok frame ∧
    frame.gesture = some observation.gesture

theorem new_ok_iff (fields : MeaningFields) (frame : MeaningFrame) :
    MeaningFrame.new fields = .ok frame ↔ frame.toMeaningFields = fields := by
  unfold MeaningFrame.new
  constructor
  · intro h
    split_ifs at h
    cases h
    rfl
  · rintro rfl
    rw [dif_neg frame.text_or_gesture, dif_neg frame.timestamp_nonneg,
      dif_pos frame.confidence_unit]

/-- Words that were read from a text have the confidence of a text, or they are none. -/
theorem read_text (text : String) :
    (Words.read (some text) none).normalizedText = "" ∨
      (Words.read (some text) none).confidence = finite 1 := by
  unfold Words.read
  dsimp only
  split_ifs
  · exact .inl rfl
  · exact .inr rfl

/-- With a gesture whose confidence is at most 1, that confidence is the one of the frame. -/
theorem withGesture_confidence (text : String) (timestampMs : ℤ) (gesture : GestureObservation)
    (h : gesture.confidence.le (finite 1) = true) :
    ((Words.read (some text) none).withGesture timestampMs gesture).confidence =
      gesture.confidence := by
  unfold Words.withGesture
  dsimp only
  split_ifs with hempty
  · rfl
  · rw [(read_text text).resolve_left hempty]
    exact ExtendedNumber.min_eq_right _ _ h

theorem includes_iff (m : MultimodalCorrelator) (timestampMs : ℤ) (htime : 0 ≤ timestampMs)
    (text : String) (observation : GestureObservation) (hknown : observation.gesture ≠ .unknown)
    (hconfidence : observation.confidence.le (finite 1) = true) :
    m.Includes timestampMs text observation ↔
      |timestampMs-observation.timestampMs| ≤ m.gestureCorrelationWindowMs ∧
        (finite 0).le observation.confidence = true := by
  have hcorrelate (frame : MeaningFrame) :
      m.correlate timestampMs (some text) none (some observation) = .ok frame ↔
        frame.toMeaningFields =
          m.frameFields timestampMs (.read (some text) none) (some observation) := by
    unfold correlate
    rw [if_neg htime.not_gt, if_neg (fun h => by cases h.2), new_ok_iff]
  have hframe := withGesture_confidence text timestampMs observation hconfidence
  unfold Includes
  simp only [hcorrelate, frameFields]
  by_cases hwindow : |timestampMs-observation.timestampMs| ≤ m.gestureCorrelationWindowMs
  · -- the frame has the confidence of the gesture, which is all that it can be refused for
    have hcorrelates : m.Correlates timestampMs observation := ⟨hknown, hwindow⟩
    rw [if_pos hcorrelates]
    constructor
    · rintro ⟨frame, hfields, -⟩
      have hunit := frame.confidence_unit
      rw [hfields, hframe] at hunit
      exact ⟨hwindow, hunit.1⟩
    · rintro ⟨-, hpositive⟩
      refine ⟨⟨_, fun hnone => ?_, htime.not_gt, ?_⟩, rfl, rfl⟩
      · cases hnone.2
      · exact hframe.symm ▸ (⟨hpositive, hconfidence⟩ : InUnitInterval observation.confidence)
  · have hcorrelates : ¬ m.Correlates timestampMs observation := fun h => hwindow h.2
    rw [if_neg hcorrelates]
    constructor
    · rintro ⟨frame, hfields, hgesture⟩
      rw [hfields] at hgesture
      cases hgesture
    · rintro ⟨hin, -⟩
      exact absurd hin hwindow

end MultimodalCorrelator

namespace ClassifiedGesture
open Gesture MotionGestureClassifier Fallible

theorem scored_le_one (gesture : GestureType) (value threshold factor : ExtendedNumber ℚ)
    (result : GestureType × ExtendedNumber ℚ)
    (h : scored gesture value threshold factor = .ok result) :
    result.2.le (finite 1) = true := by
  simp only [scored, ratio, bind_eq_ok_iff, pure_eq_ok_iff] at h
  obtain ⟨_, ⟨quotient, _, rfl⟩, rfl⟩ := h
  exact ExtendedNumber.min_le_of_left _ _ _ rfl

theorem confident_le_one (result : GestureType × ExtendedNumber ℚ) (h : Confident result) :
    result.2.le (finite 1) = true := by
  obtain ⟨confidence, hvalue, _, hone, _⟩ := h
  rw [hvalue]
  exact decide_eq_true hone

/-- No branch of the cascade gives a confidence above 1, whatever the thresholds are. -/
theorem recognise_le_one (c : MotionGestureClassifier) (m : Motion)
    (result : GestureType × ExtendedNumber ℚ) (h : c.recognise m = .ok result) :
    result.2.le (finite 1) = true := by
  unfold recognise at h
  dsimp only at h
  split_ifs at h
  · rw [← Except.ok.inj h]
    exact confident_le_one _ (confident_round .wave 0.9 (by decide) (by norm_num) (by norm_num))
  · exact scored_le_one _ _ _ _ _ h
  · exact scored_le_one _ _ _ _ _ h
  · exact scored_le_one _ _ _ _ _ h
  · exact scored_le_one _ _ _ _ _ h
  · exact scored_le_one _ _ _ _ _ h
  · exact scored_le_one _ _ _ _ _ h
  · rw [← Except.ok.inj h]
    exact confident_le_one _ (confident_round .hold 0.7 (by decide) (by norm_num) (by norm_num))
  · rw [← Except.ok.inj h]
    rfl

/-- What an observation keeps of its sample: the reading of the clock. -/
theorem classify_ok (c : MotionGestureClassifier) (input : GloveTelemetry × Bool)
    (observation : GestureObservation) (h : (c.classify input).2 = .ok observation) :
    observation.timestampMs = input.1.deviceTimeMsMod ∧
      observation.confidence.le (finite 1) = true := by
  unfold classify at h
  simp only [bind_eq_ok_iff, pure_eq_ok_iff] at h
  obtain ⟨result, hrecognise, rfl⟩ := h
  exact ⟨rfl, recognise_le_one _ _ result hrecognise⟩

/-- A glove with proper thresholds never gives a negative confidence. -/
theorem classify_nonneg (c : MotionGestureClassifier) (h : c.SeesBothHands)
    (hrotation : PassesPositive c.rotationThresholdDegS.value) (input : GloveTelemetry × Bool)
    (hinput : Reversible input.1) (observation : GestureObservation)
    (hclassified : (c.classify input).2 = .ok observation) :
    (finite 0).le observation.confidence = true := by
  have hsound := observations_sound c h hrotation [input] (List.forall_mem_singleton.mpr hinput)
  obtain ⟨same, hsame, confidence, hvalue, hnonneg, _⟩ := hsound _ (List.mem_singleton_self _)
  have hobservation : observation = same := Except.ok.inj (hclassified.symm.trans hsame)
  have hconfidence : observation.confidence = finite confidence := by rw [hobservation, ← hvalue]
  rw [hconfidence]
  exact decide_eq_true hnonneg

/-- A gesture sampled at `sampled`, that the glove stamps with its 16-bit clock, is in the frame
of `now` exactly when it should be, as long as the clock has not wrapped; and later when the true
distance and the one from the reading are on the same side of the window. -/
theorem correlated_iff (c : MotionGestureClassifier) (input : GloveTelemetry × Bool)
    (observation : GestureObservation) (hclassified : (c.classify input).2 = .ok observation)
    (hknown : observation.gesture ≠ .unknown) (m : MultimodalCorrelator) (now sampled : ℕ)
    (hclock : input.1.deviceTimeMsMod = (sampled % 65536 : ℕ)) (text : String) :
    (m.Includes now text observation ↔
        |(now : ℤ)-sampled| ≤ m.gestureCorrelationWindowMs) ↔
      ((finite 0).le observation.confidence = true ∧
        (sampled < 65536 ∨
          |(now : ℤ)-sampled| ≤ m.gestureCorrelationWindowMs ∧
            |(now : ℤ)-(sampled % 65536 : ℕ)| ≤ m.gestureCorrelationWindowMs ∨
          m.gestureCorrelationWindowMs < |(now : ℤ)-sampled| ∧
            m.gestureCorrelationWindowMs < |(now : ℤ)-(sampled % 65536 : ℕ)|)) ∨
      ((finite 0).le observation.confidence = false ∧
        m.gestureCorrelationWindowMs < |(now : ℤ)-sampled|) := by
  obtain ⟨htime, hconfidence⟩ := classify_ok c input observation hclassified
  rw [m.includes_iff now (Int.natCast_nonneg now) text observation hknown hconfidence, htime,
    hclock]
  have hwrap : sampled < 65536 → sampled % 65536 = sampled := Nat.mod_eq_of_lt
  -- without a frame the gesture is in none, which is right only beyond the window
  generalize (finite 0).le observation.confidence = positive
  cases positive with
  | false => simp
  | true =>
    by_cases hbefore : sampled < 65536
    · simp [hwrap hbefore, hbefore]
    · simp only [and_true, hbefore, false_or, true_and, Bool.true_eq_false, false_and, or_false]
      omega

/-- The tilt to the right, with a reading of the clock of 1000 ms. -/
def stampedTelemetry : GloveTelemetry := { tiltedTelemetry with deviceTimeMsMod := 1000 }

theorem stamped_classified : ∃ observation,
    (MotionGestureClassifier.default.classify (stampedTelemetry, true)).2 = .ok observation ∧
      observation.gesture ≠ .unknown := by
  have htilt : (MotionGestureClassifier.default.classify (stampedTelemetry, true)).2.toOption.map
      GestureObservation.gesture = some .tiltRight := by decide +kernel
  cases hclassified : (MotionGestureClassifier.default.classify (stampedTelemetry, true)).2 with
  | error _ =>
    rw [hclassified] at htilt
    cases htilt
  | ok observation =>
    rw [hclassified] at htilt
    have hgesture : observation.gesture = .tiltRight := Option.some.inj htilt
    exact ⟨observation, rfl, by rw [hgesture]; decide⟩

theorem correlated_before_wrap : ∃ observation,
    (MotionGestureClassifier.default.classify (stampedTelemetry, true)).2 = .ok observation ∧
      MultimodalCorrelator.default.Includes 1200 "turn" observation := by
  obtain ⟨observation, hclassified, hknown⟩ := stamped_classified
  have hstamped : Reversible stampedTelemetry := by constructor <;> decide
  have hpositive := classify_nonneg .default
    ⟨passesPositive_ofInt 12 (by norm_num) (by norm_num),
      passesPositive_ofInt 110 (by norm_num) (by norm_num)⟩
    (passesPositive_ofInt 90 (by norm_num) (by norm_num)) _ hstamped observation hclassified
  have hincludes := (correlated_iff .default (stampedTelemetry, true) observation hclassified hknown
    .default 1200 1000 rfl "turn").mpr (.inl ⟨hpositive, .inl (by decide)⟩)
  exact ⟨observation, hclassified, hincludes.mpr (by decide)⟩

/-- One wrap later the glove gives the same reading, and the gesture of now is left out. -/
theorem gesture_of_now_missed : ∃ observation,
    (MotionGestureClassifier.default.classify (stampedTelemetry, true)).2 = .ok observation ∧
      stampedTelemetry.deviceTimeMsMod = (66536 % 65536 : ℕ) ∧
      ¬ (MultimodalCorrelator.default.Includes 66536 "turn" observation ↔
        |(66536 : ℤ)-66536| ≤ MultimodalCorrelator.default.gestureCorrelationWindowMs) := by
  obtain ⟨observation, hclassified, hknown⟩ := stamped_classified
  obtain ⟨htime, hconfidence⟩ := classify_ok _ _ observation hclassified
  refine ⟨observation, hclassified, rfl, fun hiff => ?_⟩
  have hincluded := hiff.mpr (by decide)
  rw [MultimodalCorrelator.includes_iff _ _ (by decide) _ _ hknown hconfidence, htime] at hincluded
  exact absurd hincluded.1 (by decide)

end ClassifiedGesture
end RoboticCharacter.Multimodal
