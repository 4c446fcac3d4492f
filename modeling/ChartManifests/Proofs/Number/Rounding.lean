import ChartManifests.Number.Places
/-!
Numbers are rounded to the nearest one that can be written: a ratio to a whole number or to so many
places behind the point, and a double to a count of digits that reads back as it, with none of the
lower counts possible.
-/

namespace ChartManifests

namespace Double

section Quotient

variable {numerator denominator units other : Nat}

/-- How far so many units are from a quotient, in parts of its divisor. -/
def offset (numerator denominator units : Nat) : Nat :=
  (numerator - units * denominator) + (units * denominator - numerator)

theorem offset_lower (positive : 0 < denominator) (low : units < numerator / denominator) :
    offset numerator denominator (numerator / denominator)
      < offset numerator denominator units := by
  have whole := Nat.div_mul_le_self numerator denominator
  have less := Nat.mul_lt_mul_of_pos_right low positive
  unfold offset
  omega

theorem offset_upper (positive : 0 < denominator) (high : numerator / denominator + 1 < units) :
    offset numerator denominator (numerator / denominator + 1)
      < offset numerator denominator units := by
  have whole : numerator < (numerator / denominator + 1) * denominator :=
    Nat.lt_mul_of_div_lt (Nat.lt_succ_self _) positive
  have more := Nat.mul_lt_mul_of_pos_right high positive
  unfold offset
  omega

theorem offset_quotient (numerator denominator : Nat) :
    offset numerator denominator (numerator / denominator) = numerator % denominator := by
  have whole := Nat.div_add_mod numerator denominator
  rw [Nat.mul_comm] at whole
  unfold offset
  omega

theorem offset_quotient_succ (numerator : Nat) (positive : 0 < denominator) :
    offset numerator denominator (numerator / denominator + 1)
      = denominator - numerator % denominator := by
  have whole := Nat.div_add_mod numerator denominator
  have less := Nat.mod_lt numerator positive
  rw [Nat.mul_comm] at whole
  rw [offset, Nat.succ_mul]
  omega

theorem roundRatio_cases (numerator denominator : Nat) :
    roundRatio numerator denominator = numerator / denominator ∨
      roundRatio numerator denominator = numerator / denominator + 1 := by
  rw [roundRatio]
  split
  · exact .inl rfl
  · split
    · exact .inr rfl
    · omega

theorem roundRatio_nearest (positive : 0 < denominator)
    (different : other ≠ roundRatio numerator denominator) :
    offset numerator denominator (roundRatio numerator denominator)
        < offset numerator denominator other ∨
      offset numerator denominator (roundRatio numerator denominator)
        = offset numerator denominator other ∧ roundRatio numerator denominator % 2 = 0 := by
  have below := offset_quotient numerator denominator
  have above := offset_quotient_succ numerator positive
  have further : other = numerator / denominator ∨ other = numerator / denominator + 1 ∨
      min (numerator % denominator) (denominator - numerator % denominator)
        < offset numerator denominator other := by
    rcases Nat.lt_trichotomy other (numerator / denominator) with low | same | high
    · have := offset_lower positive low
      omega
    · exact .inl same
    · by_cases next : other = numerator / denominator + 1
      · exact .inr (.inl next)
      · have := offset_upper positive (show numerator / denominator + 1 < other by omega)
        omega
  have less := Nat.mod_lt numerator positive
  revert different
  rw [roundRatio]
  intro different
  -- only the two whole numbers around the quotient can be as near as the nearest one
  split at different
  next nearer => rw [if_pos nearer]; rcases further with rfl | rfl | further <;> omega
  next atLeast =>
    rw [if_neg atLeast]
    split at different
    next nearer => rw [if_pos nearer]; rcases further with rfl | rfl | further <;> omega
    next atMost =>
      rw [if_neg atMost]
      rcases Nat.mod_two_eq_zero_or_one (numerator / denominator) with even | odd
      · rw [even, Nat.add_zero] at different ⊢
        rcases further with rfl | rfl | further <;> omega
      · rw [odd] at different ⊢
        rcases further with rfl | rfl | further <;> omega

end Quotient

section Shortest

variable {range : Interval} {point : Int} {count units other : Nat}

structure Interval.Proper (range : Interval) : Prop where
  low : range.low < range.center
  high : range.center < range.high
  divides : 0 < range.denominator

theorem interval_proper {mantissa : Nat} (exponent : Int) (positive : 0 < mantissa) :
    (interval mantissa exponent).Proper := by
  have scale : 0 < 2 ^ (exponent - 2).toNat := Nat.two_pow_pos _
  refine ⟨Nat.mul_lt_mul_of_pos_right ?_ scale, Nat.mul_lt_mul_of_pos_right ?_ scale,
    Nat.two_pow_pos _⟩
  · split <;> omega
  · omega

theorem Interval.holds_iff {power : Int} : range.holds units power = true ↔
    if range.closed = true then
      range.low * 10 ^ (-power).toNat ≤ units * range.scaledUnit power ∧
        units * range.scaledUnit power ≤ range.high * 10 ^ (-power).toNat
    else
      range.low * 10 ^ (-power).toNat < units * range.scaledUnit power ∧
        units * range.scaledUnit power < range.high * 10 ^ (-power).toNat := by
  rw [holds]
  cases range.closed <;> simp

namespace Interval.Proper

variable (proper : range.Proper) (power : Int)
include proper

theorem scaledUnit_pos : 0 < range.scaledUnit power :=
  Nat.mul_pos (Nat.pow_pos (by decide)) proper.divides

theorem holds_neighbour {power : Int} (inside : range.holds units power = true) :
    let below := range.scaledCenter power / range.scaledUnit power
    (units ≤ below → range.holds below power = true) ∧
      (below < units → range.holds (below + 1) power = true) := by
  intro below
  have unit : 0 < 10 ^ (-power).toNat := Nat.pow_pos (by decide)
  have low := Nat.mul_lt_mul_of_pos_right proper.low unit
  have high := Nat.mul_lt_mul_of_pos_right proper.high unit
  have lower : below * range.scaledUnit power ≤ range.center * 10 ^ (-power).toNat :=
    Nat.div_mul_le_self _ _
  have upper : range.center * 10 ^ (-power).toNat < (below + 1) * range.scaledUnit power :=
    Nat.lt_mul_of_div_lt (Nat.lt_succ_self _) (proper.scaledUnit_pos power)
  rw [holds_iff] at inside
  rw [holds_iff, holds_iff]
  constructor
  · intro less
    have bound := Nat.mul_le_mul_right (range.scaledUnit power) less
    by_cases closed : range.closed = true
    · rw [if_pos closed] at inside ⊢
      omega
    · rw [if_neg closed] at inside ⊢
      omega
  · intro more
    have bound := Nat.mul_le_mul_right (range.scaledUnit power) (show below + 1 ≤ units from more)
    by_cases closed : range.closed = true
    · rw [if_pos closed] at inside ⊢
      omega
    · rw [if_neg closed] at inside ⊢
      omega

end Interval.Proper

section Best

variable (proper : range.Proper)
include proper

theorem holds_of_best?_eq_none (none : range.best? point count = none) (units : Nat) :
    range.holds units (point - count) = false := by
  rw [Interval.best?] at none
  refine Bool.eq_false_iff.mpr fun inside => ?_
  have neighbours := proper.holds_neighbour inside
  split at none <;> try contradiction
  next below above =>
    rcases Nat.lt_or_ge (range.scaledCenter (point - count) / range.scaledUnit (point - count))
      units with high | low
    · exact Bool.noConfusion (above.symm.trans (neighbours.2 high))
    · exact Bool.noConfusion (below.symm.trans (neighbours.1 low))

theorem holds_of_best?_eq_some (found : range.best? point count = some units) :
    range.holds units (point - count) = true ∧
      ∀ other, range.holds other (point - count) = true →
        offset (range.scaledCenter (point - count)) (range.scaledUnit (point - count)) units
          ≤ offset (range.scaledCenter (point - count)) (range.scaledUnit (point - count))
            other := by
  have positive := proper.scaledUnit_pos (point - count)
  rw [Interval.best?] at found
  split at found <;> cases found
  next below above =>
    refine ⟨below, fun other inside => ?_⟩
    have low : other ≤ range.scaledCenter (point - count) / range.scaledUnit (point - count) :=
      Nat.le_of_not_lt fun high =>
        Bool.noConfusion (above.symm.trans ((proper.holds_neighbour inside).2 high))
    rcases Nat.lt_or_eq_of_le low with less | same
    · exact Nat.le_of_lt (offset_lower positive less)
    · exact same ▸ Nat.le_refl _
  next below above =>
    refine ⟨above, fun other inside => ?_⟩
    have high : range.scaledCenter (point - count) / range.scaledUnit (point - count) < other :=
      Nat.lt_of_not_le fun low =>
        Bool.noConfusion (below.symm.trans ((proper.holds_neighbour inside).1 low))
    rcases Nat.lt_or_eq_of_le (Nat.succ_le_of_lt high) with more | same
    · exact Nat.le_of_lt (offset_upper positive more)
    · exact same ▸ Nat.le_refl _
  next below above =>
    refine ⟨?_, fun other _ => ?_⟩
    · rcases roundRatio_cases (range.scaledCenter (point - count))
        (range.scaledUnit (point - count)) with lower | upper
      · rw [lower]; exact below
      · rw [upper]; exact above
    · by_cases same : other = roundRatio (range.scaledCenter (point - count))
        (range.scaledUnit (point - count))
      · exact same ▸ Nat.le_refl _
      · rcases roundRatio_nearest positive same with nearer | asNear
        · exact Nat.le_of_lt nearer
        · exact Nat.le_of_eq asNear.1

/-- A decimal is the first that lies in an interval of those with at least `start` digits: it has
`count` of them, no decimal with fewer lies there, and none with as many is nearer to the center. -/
structure Interval.IsFirst (range : Interval) (point : Int) (start : Nat) (decimal : Decimal)
    (count units : Nat) : Prop where
  least : start ≤ count
  fewest : ∀ fewer, start ≤ fewer → fewer < count →
    ∀ others, range.holds others (point - fewer) = false
  inside : range.holds units (point - count) = true
  nearest : ∀ other, range.holds other (point - count) = true →
    offset (range.scaledCenter (point - count)) (range.scaledUnit (point - count)) units
      ≤ offset (range.scaledCenter (point - count)) (range.scaledUnit (point - count)) other
  decimal : decimal = ⟨significant units, point + ((Nat.toDigits 10 units).length - count)⟩

theorem shortestFrom_first (point : Int) (fuel start : Nat) :
    (∃ count units, count < start + fuel ∧
        range.IsFirst point start (range.shortestFrom point fuel start) count units) ∨
      ∀ count, start ≤ count → count < start + fuel →
        ∀ units, range.holds units (point - count) = false := by
  induction fuel generalizing start with
  | zero => exact .inr fun count least most => by omega
  | succ fuel ih =>
    rw [Interval.shortestFrom]
    cases found : range.best? point start with
    | some units =>
      obtain ⟨inside, nearest⟩ := holds_of_best?_eq_some proper found
      exact .inl ⟨start, units, by omega, Nat.le_refl start, fun _ _ less => by omega, inside,
        nearest, rfl⟩
    | none =>
      have absent := holds_of_best?_eq_none proper found
      rcases ih (start + 1) with ⟨count, units, most, first⟩ | nothing
      · refine .inl ⟨count, units, by omega, { first with
          least := Nat.le_of_succ_le first.least
          fewest := fun fewer least less => ?_ }⟩
        rcases Nat.lt_or_eq_of_le least with later | rfl
        · exact first.fewest fewer later less
        · exact absent
      · refine .inr fun count least most => ?_
        rcases Nat.lt_or_eq_of_le least with later | rfl
        · exact nothing count later (by omega)
        · exact absent

omit proper in
theorem toDigits_eq_significant (units : Nat) : ∃ zeros,
    Nat.toDigits 10 units = significant units ++ List.replicate zeros '0' := by
  let back := (Nat.toDigits 10 units).reverse
  have parts : back.takeWhile (· = '0') ++ back.dropWhile (· = '0') = back :=
    List.takeWhile_append_dropWhile
  have zeros : back.takeWhile (· = '0')
      = List.replicate (back.takeWhile (· = '0')).length '0' :=
    List.eq_replicate_iff.mpr ⟨rfl, fun character member => by
      simpa using List.all_eq_true.mp (List.all_takeWhile (l := back)) character member⟩
  refine ⟨(back.takeWhile (· = '0')).length, ?_⟩
  rw [significant, ← List.reverse_replicate, ← zeros, ← List.reverse_append, parts,
    List.reverse_reverse]

end Best

end Shortest

theorem shortest_first {mantissa : Nat} (exponent : Int) (positive : 0 < mantissa) :
    let range := interval mantissa exponent
    (∃ count units, count < 18 ∧
        range.IsFirst range.point 1 (shortest mantissa exponent) count units) ∨
      ∀ count : Nat, 1 ≤ count → count < 18 →
        ∀ units, range.holds units (range.point - count) = false :=
  shortestFrom_first (interval_proper exponent positive) _ 17 1

end Double

namespace Ratio

theorem ofDigitChars_padLeft (width : Nat) (digits : List Char) :
    Nat.ofDigitChars 10 (Double.padLeft width digits) 0 = Nat.ofDigitChars 10 digits 0 := by
  have zeros : ∀ count, Nat.ofDigitChars 10 (List.replicate count '0') 0 = 0 := by
    intro count
    induction count with
    | zero => rfl
    | succ count ih => rw [List.replicate_succ, Nat.ofDigitChars_cons]; exact ih
  rw [Double.padLeft, Nat.ofDigitChars_append, zeros]

theorem placed_digits (places : Nat) (ratio : Ratio) :
    (ratio.placed places).whole ≠ [] ∧ (ratio.placed places).fraction.length = places ∧
      Nat.ofDigitChars 10 ((ratio.placed places).whole ++ (ratio.placed places).fraction) 0
        = (ratio.scale 10 places).round := by
  have enough : places + 1
      ≤ (Double.padLeft (places + 1) (Nat.toDigits 10 (ratio.scale 10 places).round)).length := by
    rw [Double.padLeft, List.length_append, List.length_replicate]
    omega
  unfold placed
  refine ⟨fun empty => ?_, ?_, ?_⟩
  · have none := congrArg List.length empty
    rw [List.length_take, List.length_nil] at none
    omega
  · rw [List.length_drop]
    omega
  · rw [List.take_append_drop, ofDigitChars_padLeft]
    exact Nat.ofDigitChars_toDigits (by decide) (by decide)

end Ratio

end ChartManifests
