import AdmissionGate.Proofs.Quantity.FixedWidth

/-!
# Order of quantities

Quantities are compared by their counts, which are exact up to the one rounding
below a billionth.  A comparison therefore never puts the lesser number first,
and where nothing is rounded away it is the order of the numbers.
-/

namespace AdmissionGate.Quantity

open Text

theorem compare?_isSome_iff {left right : Quantity} :
    (left.compare? right).isSome = true ↔
      left.nanos?.isSome = true ∧ right.nanos?.isSome = true := by
  unfold compare?
  cases left.nanos? <;> cases right.nanos? <;> simp

theorem compare?_swap (left right : Quantity) :
    right.compare? left = (left.compare? right).map Ordering.swap := by
  unfold compare?
  cases left.nanos? with
  | none => cases right.nanos? <;> rfl
  | some nanos =>
      cases right.nanos? with
      | none => rfl
      | some nanos' => exact congrArg some (Int.compare_swap nanos nanos').symm

section

variable {left right : Quantity} {order : Ordering} {x y : ℚ}
  (compared : left.compare? right = some order)
  (hx : left.Denotes x) (hy : right.Denotes y)

include compared hx hy

theorem compares_roundAway :
    order.Compares (roundAway (x * 10 ^ 9)) (roundAway (y * 10 ^ 9)) := by
  obtain ⟨nanos, nanos', hnanos, hnanos', hcompares⟩ :=
    compare?_eq_some_iff.1 compared
  rwa [← nanos?_eq_roundAway hnanos hx, ← nanos?_eq_roundAway hnanos' hy]

theorem ne_gt_of_le (h : x ≤ y) : order ≠ .gt := by
  rw [(compares_roundAway compared hx hy).ne_gt]
  exact roundAway_mono (mul_le_mul_of_nonneg_right h (by norm_num))

theorem compares_of_whole {count count' : ℤ} (hcount : x * 10 ^ 9 = count)
    (hcount' : y * 10 ^ 9 = count') : order.Compares x y := by
  have hbillion : StrictMono fun value : ℚ => value * 10 ^ 9 :=
    fun _ _ h => mul_lt_mul_of_pos_right h (by norm_num)
  have hcompares := compares_roundAway compared hx hy
  rw [hcount, hcount', roundAway_intCast, roundAway_intCast] at hcompares
  rw [← hbillion.compares]
  rw [hcount, hcount']
  exact Int.cast_strictMono.compares.2 hcompares

end

/-- A count is the spelled number, rounded once; its computation never wraps; and
comparisons are exact but for that rounding. -/
theorem counted_and_compared_exactly :
    (∀ (quantity : Quantity) (nanos : Int), quantity.nanos? = some nanos →
      ∃ written : Written, written.SpelledBy (trim quantity.text.toList) ∧
        nanos = roundAway (written.value * 10 ^ 9)) ∧
    (∀ quantity : Quantity,
      quantity.stepwise = quantity.nanos?.elim (.error .gaveUp) .ok) ∧
    ∀ left right : Quantity,
      ((left.compare? right).isSome = true ↔
        left.nanos?.isSome = true ∧ right.nanos?.isSome = true) ∧
      ∀ (order : Ordering) (x y : ℚ), left.compare? right = some order →
        left.Denotes x → right.Denotes y →
          order.Compares (roundAway (x * 10 ^ 9)) (roundAway (y * 10 ^ 9)) ∧
          (x ≤ y → order ≠ .gt) ∧
          ∀ count count' : ℤ, x * 10 ^ 9 = count → y * 10 ^ 9 = count' →
            order.Compares x y := by
  refine ⟨fun quantity nanos h => ?_, stepwise_eq,
    fun left right => ⟨compare?_isSome_iff, fun order x y compared hx hy => ?_⟩⟩
  · obtain ⟨_, ⟨written, spelled, rfl⟩, hnanos⟩ := nanos?_eq_some h
    exact ⟨written, spelled, hnanos⟩
  · exact ⟨compares_roundAway compared hx hy, ne_gt_of_le compared hx hy,
      fun _ _ => compares_of_whole compared hx hy⟩

/-! ### A byte beyond an exbibyte -/

def exbibyteWritten : Written := ⟨false, ['1'], [], .binary 6⟩

def beyondWritten : Written :=
  ⟨false, "1152921504606846977".toList, [], .decimal 0⟩

theorem denotes_exbibyte : Quantity.Denotes ⟨"1Ei"⟩ 1152921504606846976 := by
  refine ⟨exbibyteWritten, written?_eq_some_iff.1 (by decide +kernel), ?_⟩
  have hwhole : valueOfDigits ['1'] = 1 := by decide
  have hfraction : valueOfDigits [] = 0 := by decide
  norm_num [exbibyteWritten, Written.value, Written.magnitude, Written.number,
    Suffix.factor, hwhole, hfraction]

theorem denotes_beyond :
    Quantity.Denotes ⟨"1152921504606846977"⟩ 1152921504606846977 := by
  refine ⟨beyondWritten, written?_eq_some_iff.1 (by decide +kernel), ?_⟩
  have hwhole : valueOfDigits "1152921504606846977".toList =
      1152921504606846977 := by decide +kernel
  have hfraction : valueOfDigits [] = 0 := by decide
  norm_num [beyondWritten, Written.value, Written.magnitude, Written.number,
    Suffix.factor, hwhole, hfraction]

/-- One byte is told apart at the size of an exbibyte, in either order.  A tenth of
a billionth is counted as one. -/
theorem exbibyte_exceeded :
    Quantity.compare? ⟨"1152921504606846977"⟩ ⟨"1Ei"⟩ = some .gt ∧
    Quantity.compare? ⟨"1Ei"⟩ ⟨"1152921504606846977"⟩ = some .lt ∧
    Quantity.nanos? ⟨"1e-10"⟩ = some 1 ∧
    ∃ written : Written,
      written.SpelledBy (trim (Quantity.mk "1e-10").text.toList) ∧
        1 = roundAway (written.value * 10 ^ 9) := by
  obtain ⟨hcounted, -, hcompared⟩ := counted_and_compared_exactly
  have hexbibyte : (1152921504606846976 : ℚ) * 10 ^ 9 =
      (1152921504606846976000000000 : ℤ) := by norm_num
  have hbeyond : (1152921504606846977 : ℚ) * 10 ^ 9 =
      (1152921504606846977000000000 : ℤ) := by norm_num
  have hless : (1152921504606846976 : ℚ) < 1152921504606846977 := by norm_num
  have hread : (Quantity.nanos? ⟨"1Ei"⟩).isSome = true := by decide +kernel
  have hread' : (Quantity.nanos? ⟨"1152921504606846977"⟩).isSome = true := by
    decide +kernel
  have htenth : Quantity.nanos? ⟨"1e-10"⟩ = some 1 := by decide +kernel
  have hgreater :
      Quantity.compare? ⟨"1152921504606846977"⟩ ⟨"1Ei"⟩ = some .gt := by
    obtain ⟨hdefined, horder⟩ := hcompared ⟨"1152921504606846977"⟩ ⟨"1Ei"⟩
    obtain ⟨order, horder'⟩ :=
      Option.isSome_iff_exists.1 (hdefined.2 ⟨hread', hread⟩)
    have hcompares := (horder order _ _ horder' denotes_beyond
      denotes_exbibyte).2.2 _ _ hbeyond hexbibyte
    rw [horder', hcompares.eq_gt.2 hless]
  refine ⟨hgreater, ?_, htenth, hcounted _ _ htenth⟩
  rw [compare?_swap, hgreater]
  rfl

end AdmissionGate.Quantity
