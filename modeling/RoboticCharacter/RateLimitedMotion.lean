import RoboticCharacter.PythonMath
import Mathlib.Algebra.Order.Archimedean.Basic
import Mathlib.Tactic.Linarith
import Mathlib.Tactic.Positivity
import Mathlib.Tactic.Ring

/-! A point whose velocity follows a wanted velocity at a limited rate: which velocities
one step can give, and when a point that moves away from its target turns back in time. -/
namespace RateLimited
open PythonMath

variable {K : Type*} [Field K] [LinearOrder K]

/-- One step of the velocity towards `wanted`, by `limit` at most. -/
def slew (limit wanted velocity : K) : K :=
  let delta := wanted-velocity
  if limit < |delta| then velocity+copysign limit delta else wanted

theorem slew_of_near (limit wanted velocity : K) (h : |wanted-velocity| ≤ limit) :
    slew limit wanted velocity = wanted := if_neg (not_lt.mpr h)

variable [IsStrictOrderedRing K]

theorem slew_of_lt (limit wanted velocity : K) (hl : 0 ≤ limit) (h : limit < wanted-velocity) :
    slew limit wanted velocity = velocity+limit := by
  have hpos : 0 ≤ wanted-velocity := hl.trans h.le
  unfold slew
  rw [if_pos (h.trans_le (le_abs_self _)), copysign_of_nonneg _ _ hpos, abs_of_nonneg hl]

theorem slew_of_gt (limit wanted velocity : K) (hl : 0 ≤ limit) (h : limit < velocity-wanted) :
    slew limit wanted velocity = velocity-limit := by
  have hneg : wanted-velocity < 0 := by linarith
  unfold slew
  rw [if_pos (by rw [abs_of_neg hneg]; linarith), copysign_of_neg _ _ hneg, abs_of_nonneg hl,
    sub_eq_add_neg]

/-- The three steps of a velocity under a limit that is not negative. -/
theorem slew_cases (limit wanted velocity : K) (hl : 0 ≤ limit) :
    (limit < wanted-velocity ∧ slew limit wanted velocity = velocity+limit) ∨
    (limit < velocity-wanted ∧ slew limit wanted velocity = velocity-limit) ∨
    (|wanted-velocity| ≤ limit ∧ slew limit wanted velocity = wanted) := by
  rcases le_or_gt |wanted-velocity| limit with hnear | hfar
  · exact .inr (.inr ⟨hnear, slew_of_near limit wanted velocity hnear⟩)
  · rcases lt_abs.mp hfar with hup | hdown
    · exact .inl ⟨hup, slew_of_lt limit wanted velocity hl hup⟩
    · rw [neg_sub] at hdown
      exact .inr (.inl ⟨hdown, slew_of_gt limit wanted velocity hl hdown⟩)

theorem slew_neg (limit wanted velocity : K) (hl : 0 ≤ limit) :
    slew limit (-wanted) (-velocity) = -slew limit wanted velocity := by
  rcases slew_cases limit wanted velocity hl with ⟨h, hs⟩ | ⟨h, hs⟩ | ⟨h, hs⟩
  · rw [hs, slew_of_gt _ _ _ hl (by linarith)]
    ring
  · rw [hs, slew_of_lt _ _ _ hl (by linarith)]
    ring
  · rw [hs, slew_of_near]
    rwa [show -wanted-(-velocity) = -(wanted-velocity) by ring, abs_neg]

/-- A velocity that is not against the wanted one stays so. -/
theorem slew_nonneg (limit wanted velocity : K) (hl : 0 ≤ limit) (hw : 0 ≤ wanted)
    (hv : 0 ≤ velocity) : 0 ≤ slew limit wanted velocity := by
  rcases slew_cases limit wanted velocity hl with ⟨_, hs⟩ | ⟨h, hs⟩ | ⟨_, hs⟩
  · rw [hs]
    exact add_nonneg hv hl
  · rw [hs]
    linarith
  · rwa [hs]

/-- A speed bound of both velocities is one of the next. -/
theorem abs_slew_le (limit wanted velocity bound : K) (hl : 0 ≤ limit) (hw : |wanted| ≤ bound)
    (hv : |velocity| ≤ bound) : |slew limit wanted velocity| ≤ bound := by
  obtain ⟨hwlow, hwhigh⟩ := abs_le.mp hw
  obtain ⟨hvlow, hvhigh⟩ := abs_le.mp hv
  rw [abs_le]
  rcases slew_cases limit wanted velocity hl with ⟨h, hs⟩ | ⟨h, hs⟩ | ⟨_, hs⟩
  · rw [hs]
    constructor <;> linarith
  · rw [hs]
    constructor <;> linarith
  · rw [hs]
    exact ⟨hwlow, hwhigh⟩

theorem min_le_slew (limit wanted velocity : K) (hl : 0 ≤ limit) :
    min wanted (velocity+limit) ≤ slew limit wanted velocity := by
  rcases slew_cases limit wanted velocity hl with ⟨_, hs⟩ | ⟨h, hs⟩ | ⟨_, hs⟩
  · rw [hs]
    exact min_le_right _ _
  · rw [hs]
    have hle := min_le_left wanted (velocity+limit)
    linarith
  · rw [hs]
    exact min_le_left _ _

/-- The square of the velocity that a deceleration `a` ends within `room`. -/
def stoppingSquare (a room : K) : K := 2*a*room

/-- Within `room`, a deceleration `a` ends a velocity `v`. -/
def StopsWithin (a v room : K) : Prop := v^2 ≤ stoppingSquare a room

/-- What one step of the braking leaves: it stays within the room, and the rest of the
velocity ends within the rest of the room. -/
theorem StopsWithin.slowed (a v room dt : K) (ha : 0 ≤ a) (hroom : 0 ≤ room)
    (h : StopsWithin a v room) :
    (v-a*dt)*dt ≤ room ∧ StopsWithin a (v-a*dt) (room-(v-a*dt)*dt) := by
  unfold StopsWithin stoppingSquare at h ⊢
  have hsquare : (v-a*dt)^2+2*a*((v-a*dt)*dt) = v^2-(a*dt)^2 := by ring
  have hrest : (v-a*dt)^2 ≤ 2*a*(room-(v-a*dt)*dt) := by
    have := sq_nonneg (a*dt)
    linarith
  refine ⟨?_, hrest⟩
  rcases ha.eq_or_lt with hzero | hpos
  · rw [← hzero] at h ⊢
    have hv : v = 0 := by
      have := sq_nonneg v
      exact pow_eq_zero_iff two_ne_zero |>.mp (by linarith)
    rw [hv]
    linarith
  · have hle : 0 ≤ 2*a*(room-(v-a*dt)*dt) := (sq_nonneg _).trans hrest
    have := nonneg_of_mul_nonneg_right hle (by linarith)
    linarith

/-- A point below its target that moves away from it, with room to stop above `low`, is
after a step still above `low`, and stops above `low` if it still moves away. -/
theorem slew_away (a dt wanted velocity position low : K) (ha : 0 ≤ a) (hdt : 0 < dt)
    (hw : 0 ≤ wanted) (hlow : low ≤ position)
    (hstop : velocity < 0 → StopsWithin a velocity (position-low)) :
    low ≤ position+slew (a*dt) wanted velocity*dt ∧
    (slew (a*dt) wanted velocity < 0 →
      StopsWithin a (slew (a*dt) wanted velocity)
        (position+slew (a*dt) wanted velocity*dt-low)) := by
  have hl : 0 ≤ a*dt := mul_nonneg ha hdt.le
  rcases le_or_gt 0 (slew (a*dt) wanted velocity) with hs | hs
  · refine ⟨?_, fun h => absurd h (not_lt.mpr hs)⟩
    have := mul_nonneg hs hdt.le
    linarith
  · have hv : velocity < 0 := by
      by_contra hv
      exact absurd (slew_nonneg _ _ _ hl hw (not_lt.mp hv)) (not_le.mpr hs)
    -- only the braking branch leaves a velocity that is still negative
    have hslew : slew (a*dt) wanted velocity = velocity+a*dt := by
      rcases slew_cases (a*dt) wanted velocity hl with ⟨_, h⟩ | ⟨h, _⟩ | ⟨_, h⟩
      · exact h
      · linarith
      · linarith
    have hstops : StopsWithin a (-velocity) (position-low) := by
      have := hstop hv
      unfold StopsWithin at this ⊢
      rwa [neg_sq]
    obtain ⟨hroom, hrest⟩ := StopsWithin.slowed a (-velocity) (position-low) dt ha
      (sub_nonneg.mpr hlow) hstops
    have hmove : (-velocity-a*dt)*dt = -((velocity+a*dt)*dt) := by ring
    rw [hmove] at hroom hrest
    rw [hslew]
    refine ⟨by linarith, fun _ => ?_⟩
    unfold StopsWithin stoppingSquare at hrest ⊢
    have hsquare : (velocity+a*dt)^2 = (-velocity-a*dt)^2 := by ring
    rw [hsquare]
    refine hrest.trans_eq ?_
    ring

/-- A step of a point on the way to its target, by the distance that is left and the speed
towards it: the point stays short of its target, and its speed falls behind neither the wanted
one nor what the rate allows. -/
structure Approaches (a dt : K) (wanted : K → K) (distance speed nextDistance nextSpeed : K) :
    Prop where
  short : 0 < nextDistance
  speed_ge : min (wanted distance) (speed+a*dt) ≤ nextSpeed
  distance_eq : nextDistance = distance-nextSpeed*dt

section Endless
variable {a dt c : K} {wanted : K → K} {distance speed : ℕ → K}

/-- While the point moves away its speed towards the target grows at the full rate. -/
theorem speed_grows (ha : 0 < a) (hdt : 0 < dt) (hpositive : ∀ n, 0 < distance n)
    (hwanted : ∀ d, 0 < d → 0 < wanted d)
    (h : ∀ n, Approaches a dt wanted (distance n) (speed n) (distance (n+1)) (speed (n+1)))
    (n : ℕ) : 0 ≤ speed n ∨ speed 0+n*(a*dt) ≤ speed n := by
  have hrate : 0 < a*dt := mul_pos ha hdt
  induction n with
  | zero =>
    right
    rw [Nat.cast_zero, zero_mul, add_zero]
  | succ n ih =>
    have hspeed := (h n).speed_ge
    have hwant := hwanted _ (hpositive n)
    obtain hle | hle := min_le_iff.mp hspeed
    · exact .inl (hwant.le.trans hle)
    · obtain hforward | hback := ih
      · exact .inl (by linarith)
      · right
        rw [Nat.cast_succ, add_mul, one_mul]
        linarith

/-- A point that does not move away comes closer by `c` at every step that ends short. -/
theorem distance_falls (hdt : 0 < dt) (hcap : c ≤ a*dt*dt)
    (hwanted : ∀ d, 0 < d → min c d ≤ wanted d*dt) {d v nextDistance nextSpeed : K} (hd : 0 < d)
    (hv : 0 ≤ v) (h : Approaches a dt wanted d v nextDistance nextSpeed) :
    nextDistance ≤ d-c := by
  have hmove : min c d ≤ nextSpeed*dt := by
    calc
      min c d ≤ min (wanted d*dt) ((v+a*dt)*dt) := by
        apply le_min (hwanted d hd)
        have hcoast := mul_nonneg hv hdt.le
        have hle := (min_le_left c d).trans hcap
        linarith
      _ = min (wanted d) (v+a*dt)*dt := (min_mul_of_nonneg _ _ hdt.le).symm
      _ ≤ nextSpeed*dt := mul_le_mul_of_nonneg_right h.speed_ge hdt.le
  have hshort := h.short
  rw [h.distance_eq] at hshort ⊢
  obtain hle | hle := min_le_iff.mp hmove
  · linarith
  · linarith

/-- No point approaches its target for ever: the speed turns to the target in finitely many
steps, and from then on the distance falls by `c` at each. -/
theorem not_endless [Archimedean K] (distance speed : ℕ → K) (ha : 0 < a) (hdt : 0 < dt)
    (hc : 0 < c) (hcap : c ≤ a*dt*dt) (hwanted : ∀ d, 0 < d → min c d ≤ wanted d*dt)
    (hstart : 0 < distance 0)
    (h : ∀ n, Approaches a dt wanted (distance n) (speed n) (distance (n+1)) (speed (n+1))) :
    False := by
  have hpositive : ∀ n, 0 < distance n := by
    intro n
    cases n with
    | zero => exact hstart
    | succ n => exact (h n).short
  have hwant : ∀ d, 0 < d → 0 < wanted d := fun d hd =>
    pos_of_mul_pos_left ((lt_min hc hd).trans_le (hwanted d hd)) hdt.le
  have hrate : 0 < a*dt := mul_pos ha hdt
  -- after so many steps a speed that leads away has been used up
  obtain ⟨turn, hturn⟩ := exists_nat_ge (-speed 0/(a*dt))
  rw [div_le_iff₀ hrate] at hturn
  have hforward : ∀ k, 0 ≤ speed (turn+k) := by
    intro k
    obtain hspeed | hspeed := speed_grows ha hdt hpositive hwant h (turn+k)
    · exact hspeed
    · rw [Nat.cast_add, add_mul] at hspeed
      have hmore := mul_nonneg (Nat.cast_nonneg (α := K) k) hrate.le
      linarith
  -- from then on each step takes at least `c` off the distance, which stays positive
  have hfalls : ∀ k : ℕ, distance (turn+k) ≤ distance turn-k*c := by
    intro k
    induction k with
    | zero => rw [Nat.cast_zero, zero_mul, sub_zero, Nat.add_zero]
    | succ k ih =>
      have hstep := distance_falls hdt hcap hwanted (hpositive _) (hforward k) (h (turn+k))
      rw [Nat.cast_succ, add_mul, one_mul]
      exact hstep.trans (by linarith)
  obtain ⟨last, hlast⟩ := exists_nat_ge (distance turn/c)
  rw [div_le_iff₀ hc] at hlast
  have hend := hfalls last
  have hshort := hpositive (turn+last)
  linarith

end Endless

end RateLimited
