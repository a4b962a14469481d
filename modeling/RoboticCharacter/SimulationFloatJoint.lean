import RoboticCharacter.SimulationFloatCalls

/-! A step of one joint in floating-point numbers, by the order of the numbers alone: its velocity
ends between what it was and what is desired, and its position between its target and where it was
or would have run to. What lies between two numbers that fit a wire field fits it. -/
namespace RoboticCharacter.Floating
open Binary64 PythonMath
open ExtendedNumber (finite)

/-- The hundredths of the number, as they are computed, are rounded into a signed 16-bit field. -/
def FitsField (q : ℚ) : Prop := -32768.5 ≤ nearest (q*100) ∧ nearest (q*100) < 32767.5

instance : DecidablePred FitsField := fun _ => inferInstanceAs (Decidable (_ ∧ _))

def FitsCentidegrees (x : Double) : Prop := ∃ q, x.value = finite q ∧ FitsField q

instance (x : Double) : Decidable (FitsCentidegrees x) :=
  match h : x.value with
  | .finite q => decidable_of_iff (FitsField q) ⟨fun hq => ⟨q, h, hq⟩, fun hfits => by
      obtain ⟨r, hr, hr'⟩ := hfits
      rw [h] at hr
      rwa [ExtendedNumber.finite.inj hr]⟩
  | .infinity => isFalse fun hfits => by
      obtain ⟨_, hr, _⟩ := hfits
      rw [h] at hr
      cases hr
  | .negInfinity => isFalse fun hfits => by
      obtain ⟨_, hr, _⟩ := hfits
      rw [h] at hr
      cases hr
  | .nan => isFalse fun hfits => by
      obtain ⟨_, hr, _⟩ := hfits
      rw [h] at hr
      cases hr

theorem fitsField_iff (q : ℚ) : FitsField q ↔
    -32768 ≤ roundHalfEven (nearest (q*100)) ∧ roundHalfEven (nearest (q*100)) < 32768 := by
  have hlow := le_roundHalfEven_iff (-32768) rfl (nearest (q*100))
  have hhigh := le_roundHalfEven_iff 32768 rfl (nearest (q*100))
  have hmin : (-32768.5 : ℚ) = ((-32768 : ℤ) : ℚ)-1/2 := by norm_num
  have hmax : (32767.5 : ℚ) = ((32768 : ℤ) : ℚ)-1/2 := by norm_num
  rw [hlow, ← not_le, hhigh, not_le, FitsField, hmin, hmax]

theorem fitsField_round (q : ℚ) (h : FitsField q) : Binary64.round (q*100) =
    finite (nearest (q*100)) := by
  have hrange : |nearest (q*100)| < 2^16 := by
    rw [abs_lt]
    constructor
    · linarith [h.1]
    · linarith [h.2]
  have hfinite := hrange.trans (pow_lt_pow_right₀ (by norm_num) (by norm_num : 16 < 1024))
  unfold Binary64.round
  rw [if_neg (not_le.mpr hfinite)]

/-- The numbers whose conversion neither raises nor leaves the field. -/
theorem fitsCentidegrees_iff (x : Double) : FitsCentidegrees x ↔ ∃ n,
    DigitalTwinRobot.hundredths x = .ok n ∧ -32768 ≤ n ∧ n < 32768 := by
  have hhundred : (Double.literal 100).value = finite 100 :=
    Double.literal_value 100 (holds_int 100 (by norm_num))
  have hproduct (r : ℚ) := Double.mul_eq_finite_iff x _ 100 r hhundred
  unfold DigitalTwinRobot.hundredths
  constructor
  · intro h
    obtain ⟨q, hx, hfits⟩ := h
    refine ⟨_, (Double.round_eq_ok_iff _ _).mpr ⟨_, ?_, rfl⟩, (fitsField_iff q).mp hfits⟩
    exact (hproduct _).mpr ⟨q, hx, fitsField_round q hfits⟩
  · intro h
    obtain ⟨n, hn, hrange⟩ := h
    obtain ⟨r, hr, rfl⟩ := (Double.round_eq_ok_iff _ n).mp hn
    obtain ⟨q, hx, hround⟩ := (hproduct r).mp hr
    rw [(round_finite _ r hround).1] at hrange
    exact ⟨q, hx, (fitsField_iff q).mpr hrange⟩

theorem fitsField_between (low high q : ℚ) (hlow : FitsField low) (hhigh : FitsField high)
    (hq : low ≤ q ∧ q ≤ high) : FitsField q := by
  have hbelow := nearest_mono (low*100) (q*100) (by linarith [hq.1])
  have habove := nearest_mono (q*100) (high*100) (by linarith [hq.2])
  exact ⟨hlow.1.trans hbelow, habove.trans_lt hhigh.2⟩

/-- The field of a magnitude holds both signs of it. -/
theorem fitsField_of_abs (bound q : ℚ) (hbound : FitsField |bound|) (hq : |q| ≤ |bound|) :
    FitsField q := by
  have hneg : FitsField (-|bound|) := by
    unfold FitsField
    rw [neg_mul, nearest_neg]
    have hpos := nearest_nonneg (|bound| * 100) (mul_nonneg (abs_nonneg _) (by norm_num))
    constructor
    · linarith [hbound.2]
    · linarith
  exact fitsField_between _ _ q hneg hbound (abs_le.mp hq)

theorem fitsField_small (q : ℚ) (h : FitsField q) : |q| ≤ 375 := by
  have hwhole (n : ℤ) (hn : |n| ≤ 2^52) := nearest_of_int n hn
  rw [abs_le]
  constructor
  · by_contra hless
    have hmono := nearest_mono (q*100) ((-37500 : ℤ) : ℚ) (by push_cast; linarith)
    rw [hwhole _ (by norm_num)] at hmono
    push_cast at hmono
    linarith [h.1]
  · by_contra hmore
    have hmono := nearest_mono ((37500 : ℤ) : ℚ) (q*100) (by push_cast; linarith)
    rw [hwhole _ (by norm_num)] at hmono
    push_cast at hmono
    linarith [h.2]

theorem fits_zero : FitsCentidegrees (.literal 0) :=
  ⟨0, Double.literal_value 0 holds_zero, by decide +kernel⟩

theorem magnitude_fits (x : Double) (h : FitsCentidegrees x.abs) :
    ∃ q, x.value = finite q ∧ FitsField |q| := by
  obtain ⟨r, hr, hfits⟩ := h
  obtain ⟨q, hq, rfl⟩ := Double.abs_eq_finite x r hr
  exact ⟨q, hq, hfits⟩

/-- A limit that is not negative leaves the velocity between where it was and what was desired. -/
theorem slew_between (limit desired velocity : Double) (w v : ℚ) (hlimit : limit.NotNegative)
    (hdesired : desired.value = finite w) (hvelocity : velocity.value = finite v)
    (hw : |w| ≤ 375) (hv : |v| ≤ 375) :
    ∃ u, (slew limit desired velocity).value = finite u ∧ min v w ≤ u ∧ u ≤ max v w := by
  obtain ⟨hw, hw'⟩ := abs_le.mp hw
  obtain ⟨hv, hv'⟩ := abs_le.mp hv
  have hdelta := (Double.sub_between desired velocity w v ((-1000 : ℤ) : ℚ) ((1000 : ℤ) : ℚ)
    hdesired hvelocity (holds_int _ (by norm_num)) (holds_int _ (by norm_num))
    ⟨by push_cast; linarith, by push_cast; linarith⟩).1
  have habs := Double.abs_value _ _ hdelta
  have hvholds := velocity.ofFormat v hvelocity
  have hwholds := desired.ofFormat w hdesired
  unfold slew
  dsimp only
  split_ifs with hless
  · obtain ⟨m, hm, hpos, hbelow⟩ := Double.finite_of_lt limit _ _ hlimit habs hless
    have hmholds := limit.ofFormat m hm
    have hcopy := Double.copysign_value limit (desired.sub velocity) m hm
    rw [abs_of_nonneg hpos] at hcopy
    rcases lt_trichotomy v w with hup | hsame | hdown
    · -- the limit is no more than the whole way up
      rw [abs_of_nonneg (nearest_nonneg (w-v) (by linarith))] at hbelow
      have hway := le_of_lt_nearest m (w-v) hmholds hbelow
      rw [Double.isNegative_of_pos _ _ hdelta (hpos.trans_lt hbelow)] at hcopy
      obtain ⟨hsum, hlow, hhigh⟩ := Double.add_between velocity _ v m v w hvelocity hcopy hvholds
        hwholds ⟨by linarith, by linarith⟩
      exact ⟨_, hsum, (min_le_left v w).trans hlow, hhigh.trans (le_max_right v w)⟩
    · rw [hsame, sub_self, nearest_zero, abs_zero] at hbelow
      exact absurd hbelow (not_lt.mpr hpos)
    · rw [abs_nearest, abs_of_neg (by linarith), neg_sub] at hbelow
      have hway := le_of_lt_nearest m (v-w) hmholds hbelow
      have hnegative : nearest (w-v) < 0 := by
        rw [← neg_sub, nearest_neg]
        linarith
      rw [Double.isNegative_of_neg _ _ hdelta hnegative] at hcopy
      obtain ⟨hsum, hlow, hhigh⟩ := Double.add_between velocity _ v (-m) w v hvelocity hcopy
        hwholds hvholds ⟨by linarith, by linarith⟩
      exact ⟨_, hsum, (min_le_right v w).trans hlow, hhigh.trans (le_max_left v w)⟩
  · exact ⟨w, hdesired, min_le_right v w, le_max_right v w⟩

/-- The desired velocity is within the limit, and has the sign of the error. -/
theorem desiredVelocity_value (limit acceleration error : Double) (bound : ℚ)
    (hlimit : limit.value = finite bound) :
    ∃ w, (desiredVelocity limit acceleration error).value = finite w ∧ |w| ≤ |bound| ∧
      (error.isNegative = false → 0 ≤ w) ∧ (error.isNegative = true → w ≤ 0) := by
  obtain ⟨q, hq, hbound⟩ := Double.min_value limit _ bound hlimit (Double.notNegative_sqrt _
    (Double.notNegative_max (((Double.literal 2).mul acceleration).mul error.abs)))
  have hcopy := Double.copysign_value _ error q hq
  refine ⟨_, hcopy, ?_, ?_, ?_⟩
  · split_ifs
    · rw [abs_neg, abs_abs]
      exact hbound
    · rw [abs_abs]
      exact hbound
  · intro hsign
    rw [hsign]
    exact abs_nonneg q
  · intro hsign
    rw [hsign]
    exact neg_nonpos.mpr (abs_nonneg q)

/-- Where a joint is after the time at a velocity. -/
theorem run_value (position velocity dt : Double) (p v d : ℚ) (hp : position.value = finite p)
    (hv : velocity.value = finite v) (hd : dt.value = finite d) (hpos : 0 < d)
    (hd' : d*1000 ≤ 8*eighth) (hps : |p| ≤ 375) (hvs : |v| ≤ 375) :
    (position.add (velocity.mul dt)).value = finite (nearest (p+nearest (v*d))) ∧
      |nearest (p+nearest (v*d))| ≤ 4*eighth := by
  have hlarge := eighth_large
  have heighths (n : ℤ) (hn : |n| < 8) := holds_eighths n hn
  obtain ⟨hps, hps'⟩ := abs_le.mp hps
  have hway : |v*d| ≤ 3*eighth := by
    rw [abs_mul, abs_of_pos hpos]
    calc
      |v| * d ≤ 375*d := mul_le_mul_of_nonneg_right hvs hpos.le
      _ ≤ 3*eighth := by linarith
  obtain ⟨hlow, hhigh⟩ := abs_le.mp hway
  obtain ⟨hproduct, hrun, hrun'⟩ := Double.mul_between velocity dt v d (((-3 : ℤ) : ℚ)*eighth)
    (((3 : ℤ) : ℚ)*eighth) hv hd (heighths _ (by norm_num)) (heighths _ (by norm_num))
    ⟨by push_cast; linarith, by push_cast; linarith⟩
  push_cast at hrun hrun'
  obtain ⟨hsum, hend, hend'⟩ := Double.add_between position _ p _ (((-4 : ℤ) : ℚ)*eighth)
    (((4 : ℤ) : ℚ)*eighth) hp hproduct (heighths _ (by norm_num)) (heighths _ (by norm_num))
    ⟨by push_cast; linarith, by push_cast; linarith⟩
  push_cast at hend hend'
  refine ⟨hsum, abs_le.mpr ⟨?_, ?_⟩⟩
  · linarith
  · linarith

/-- The velocity takes the joint away from its target. -/
def MovesAway (error velocity : Double) : Prop :=
  (Double.literal 0).lt error = true ∧ velocity.lt (.literal 0) = true ∨
    error.lt (.literal 0) = true ∧ (Double.literal 0).lt velocity = true

instance (error velocity : Double) : Decidable (MovesAway error velocity) :=
  inferInstanceAs (Decidable (_ ∨ _))

/-- What a joint that is not at rest has to obey for a step: the limits in force, and where it
would be at its velocity if that takes it away from its target. -/
structure KeepsField (velocityLimit accelerationLimit target dt position velocity : Double) :
    Prop where
  acceleration_nonneg : accelerationLimit.NotNegative
  limit_fits : FitsCentidegrees velocityLimit.abs
  runs_on : MovesAway (target.sub position) velocity →
    FitsCentidegrees (position.add (velocity.mul dt))

/-- A joint that has not reached its target ends between two numbers that fit: its target, and
either its position or, if it moves away, where its velocity would have taken it. -/
theorem next_fits (target dt position velocity : Double) (t p v u w d : ℚ)
    (hp : position.value = finite p) (hv : velocity.value = finite v)
    (hd : dt.value = finite d) (htf : FitsField t)
    (hpf : FitsField p) (hvf : FitsField v) (hpos : 0 < d) (hd' : d*1000 ≤ 8*eighth)
    (herror : (target.sub position).value = finite (nearest (t-p)))
    (hruns : MovesAway (target.sub position) velocity →
      FitsCentidegrees (position.add (velocity.mul dt)))
    (hu : min v w ≤ u ∧ u ≤ max v w) (hup : 0 < nearest (t-p) → 0 ≤ w)
    (hdown : nearest (t-p) < 0 → w ≤ 0) (hahead : 0 < nearest (t-p) *
      nearest (t-nearest (p+nearest (u*d)))) : FitsField (nearest (p+nearest (u*d))) := by
  obtain ⟨hrun, _⟩ := run_value position velocity dt p v d hp hv hd hpos hd'
    (fitsField_small p hpf) (fitsField_small v hvf)
  have hzero := Double.literal_value 0 holds_zero
  have hmono (a b : ℚ) (hab : a ≤ b) : nearest (p+nearest (a*d)) ≤ nearest (p+nearest (b*d)) := by
    have hinner := nearest_mono (a*d) (b*d) (mul_le_mul_of_nonneg_right hab hpos.le)
    exact nearest_mono _ _ (by linarith)
  have hstill : nearest (p+nearest (0*d)) = p := by
    rw [zero_mul, nearest_zero, add_zero, (position.ofFormat p hp).exact_eq]
  have hfits (haway : MovesAway (target.sub position) velocity) :
      FitsField (nearest (p+nearest (v*d))) := by
    obtain ⟨r, hr, hfits⟩ := hruns haway
    rw [hrun] at hr
    rwa [ExtendedNumber.finite.inj hr]
  rcases mul_pos_iff.mp hahead with ⟨hpt, hnt⟩ | ⟨htp, htn⟩
  · -- the target is above both, and the joint goes up unless its velocity is still negative
    have hhigh := pos_of_nearest_pos _ hnt
    rcases le_or_gt 0 v with hv0 | hv0
    · have hlow := hmono 0 u ((le_min hv0 (hup hpt)).trans hu.1)
      rw [hstill] at hlow
      exact fitsField_between p t _ hpf htf ⟨hlow, by linarith⟩
    · have haway : MovesAway (target.sub position) velocity := by
        left
        unfold Double.lt
        rw [herror, hv, hzero]
        exact ⟨decide_eq_true hpt, decide_eq_true hv0⟩
      have hlow := hmono v u ((le_min le_rfl (hv0.le.trans (hup hpt))).trans hu.1)
      exact fitsField_between _ t _ (hfits haway) htf ⟨hlow, by linarith⟩
  · have hlow := neg_of_nearest_neg _ htn
    rcases le_or_gt v 0 with hv0 | hv0
    · have hhigh := hmono u 0 (hu.2.trans (max_le hv0 (hdown htp)))
      rw [hstill] at hhigh
      exact fitsField_between t p _ htf hpf ⟨by linarith, hhigh⟩
    · have haway : MovesAway (target.sub position) velocity := by
        right
        unfold Double.lt
        rw [herror, hv, hzero]
        exact ⟨decide_eq_true htp, decide_eq_true hv0⟩
      have hhigh := hmono u v (hu.2.trans (max_le le_rfl ((hdown htp).trans hv0.le)))
      exact fitsField_between t _ _ htf (hfits haway) ⟨by linarith, hhigh⟩

theorem stepJoint_fits (spec : ReferenceJoint FiniteDouble) (vl al target dt position velocity :
    Double) (ticks : ℤ) (hdt : Duration dt ticks) (htarget : FitsCentidegrees target)
    (hposition : FitsCentidegrees position) (hvelocity : FitsCentidegrees velocity)
    (h : Settled (target.sub position) velocity ∨
      KeepsField (velocityLimit spec vl) (accelerationLimit spec al) target dt position velocity) :
    FitsCentidegrees (stepJoint spec vl al target dt position velocity).position ∧
    FitsCentidegrees (stepJoint spec vl al target dt position velocity).velocity := by
  unfold stepJoint
  dsimp only
  split_ifs with hsettled hreached
  · exact ⟨htarget, fits_zero⟩
  · exact ⟨htarget, fits_zero⟩
  · have hkeeps := h.resolve_left hsettled
    obtain ⟨d, hd, hpos, hd', _⟩ := duration_value dt ticks hdt
    obtain ⟨t, ht, htf⟩ := htarget
    obtain ⟨p, hp, hpf⟩ := hposition
    obtain ⟨v, hv, hvf⟩ := hvelocity
    obtain ⟨hts, hts'⟩ := abs_le.mp (fitsField_small t htf)
    obtain ⟨hps, hps'⟩ := abs_le.mp (fitsField_small p hpf)
    have hzero := Double.literal_value 0 holds_zero
    have herror := (Double.sub_between target position t p ((-1000 : ℤ) : ℚ) ((1000 : ℤ) : ℚ) ht hp
      (holds_int _ (by norm_num)) (holds_int _ (by norm_num))
      ⟨by push_cast; linarith, by push_cast; linarith⟩).1
    -- the velocity of the step lies between the one there was and a desired one that fits
    obtain ⟨bound, hbound, hlimit⟩ := magnitude_fits _ hkeeps.limit_fits
    obtain ⟨w, hw, hwb, hup, hdown⟩ := desiredVelocity_value (velocityLimit spec vl)
      (accelerationLimit spec al) (target.sub position) bound hbound
    have hwf := fitsField_of_abs bound w hlimit hwb
    obtain ⟨u, hu, hbetween⟩ := slew_between _ _ velocity w v
      (Double.notNegative_mul _ dt d hkeeps.acceleration_nonneg hd hpos) hw hv
      (fitsField_small w hwf) (fitsField_small v hvf)
    have huf : FitsField u := by
      rcases le_total v w with hvw | hwv
      · rw [min_eq_left hvw, max_eq_right hvw] at hbetween
        exact fitsField_between v w u hvf hwf hbetween
      · rw [min_eq_right hwv, max_eq_left hwv] at hbetween
        exact fitsField_between w v u hwf hvf hbetween
    obtain ⟨hnext, hend⟩ := run_value position _ dt p u d hp hu hd hpos hd'
      (fitsField_small p hpf) (fitsField_small u huf)
    obtain ⟨hend, hend'⟩ := abs_le.mp hend
    have hlarge := eighth_large
    have hleft := (Double.sub_between target _ t _ (((-5 : ℤ) : ℚ)*eighth) (((5 : ℤ) : ℚ)*eighth)
      ht hnext (holds_eighths _ (by norm_num)) (holds_eighths _ (by norm_num))
      ⟨by push_cast; linarith, by push_cast; linarith⟩).1
    have hahead : 0 < nearest (t-p) * nearest (t-nearest (p+nearest (u*d))) := by
      by_contra hnot
      apply hreached
      unfold Double.le
      rw [hzero]
      change (Binary64.mul (target.sub position).value _).le _ = true
      rw [herror, hleft]
      exact round_le_zero _ (not_lt.mp hnot)
    refine ⟨⟨_, hnext, ?_⟩, ⟨u, hu, huf⟩⟩
    exact next_fits target dt position velocity t p v u w d hp hv hd htf hpf hvf hpos hd' herror
      hkeeps.runs_on hbetween
      (fun hpositive => hup (Double.isNegative_of_pos _ _ herror hpositive))
      (fun hnegative => hdown (Double.isNegative_of_neg _ _ herror hnegative)) hahead

/-- A term of the current: a factor times a magnitude. -/
theorem term_nonneg (factor : ℚ) (x : Double) (r : ℚ) (hfactor : 0 ≤ factor)
    (h : ((Double.literal factor).mul x.abs).value = finite r) : 0 ≤ r := by
  obtain ⟨a, b, ha, hb, hproduct⟩ := Double.mul_eq_finite _ _ r h
  have ha0 : 0 ≤ a := by
    rw [(round_finite _ _ ha).1]
    exact nearest_nonneg factor hfactor
  obtain ⟨q, _, rfl⟩ := Double.abs_eq_finite x b hb
  rw [(round_finite _ _ hproduct).1]
  exact nearest_nonneg _ (mul_nonneg ha0 (abs_nonneg q))

/-- A current is converted to a number that fits, or not at all. -/
theorem simulatedCurrent_fits (velocity error : Double) (current : ℤ)
    (h : simulatedCurrent velocity error = .ok current) : 0 ≤ current ∧ current ≤ 1200 := by
  simp only [simulatedCurrent, Fallible.bind_eq_ok_iff, Fallible.pure_eq_ok_iff] at h
  obtain ⟨rounded, hrounded, rfl⟩ := h
  obtain ⟨q, hq, rfl⟩ := (Double.round_eq_ok_iff _ rounded).mp hrounded
  obtain ⟨rest, ofError, hrest, hofError, hsum⟩ := Double.add_eq_finite _ _ q hq
  obtain ⟨base, ofVelocity, hbase, hofVelocity, hsum'⟩ := Double.add_eq_finite _ _ rest hrest
  have hstart := Double.literal_value 80 (holds_int 80 (by norm_num))
  rw [hstart] at hbase
  have hbase0 : 0 ≤ base := by
    rw [← ExtendedNumber.finite.inj hbase]
    norm_num
  have hvelocity0 := term_nonneg 3 velocity ofVelocity (by norm_num) hofVelocity
  have herror0 := term_nonneg (3/5) error ofError (by norm_num) hofError
  rw [(round_finite _ _ hsum').1] at hsum
  have hrest0 := nearest_nonneg _ (add_nonneg hbase0 hvelocity0)
  have hq0 := nearest_nonneg _ (add_nonneg hrest0 herror0)
  rw [← (round_finite _ _ hsum).1] at hq0
  exact ⟨le_min (by norm_num) (roundHalfEven_nonneg q hq0), min_le_left _ _⟩

theorem stepJoint_current_fits (spec : ReferenceJoint FiniteDouble)
    (vl al target dt position velocity : Double) (current : ℤ)
    (h : (stepJoint spec vl al target dt position velocity).current = .ok current) :
    0 ≤ current ∧ current ≤ 1200 := by
  unfold stepJoint at h
  dsimp only at h
  split_ifs at h
  · rw [← Except.ok.inj h]
    exact ⟨by norm_num, by norm_num⟩
  · exact simulatedCurrent_fits _ _ current h
  · exact simulatedCurrent_fits _ _ current h

end RoboticCharacter.Floating
