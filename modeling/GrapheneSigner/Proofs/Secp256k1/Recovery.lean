import GrapheneSigner.Proofs.Secp256k1.Order
import GrapheneSigner.Secp256k1.Signature

/-!
# Valid signatures and recovery

A signature is valid under a public point if it names an element of the group by its x coordinate
such that the equation of signing holds.  What is recovered from a signature is the solution of this
equation for an element that the signature names, and since the group has prime order, exactly one
of the four candidates of a valid signature is its public point.
-/

namespace GrapheneSigner.Secp256k1

/-- A signature is valid for the digest `e` under the public point `Q`: the `s`-fold of an element
that it names is the sum of the `e`-fold of the generator and the `r`-fold of `Q`. -/
structure Signature.Valid (signature : Signature) (e : ZMod order) (Q : curve.Point) : Prop where
  r_pos : 0 < signature.r
  r_lt : signature.r < order
  s_pos : 0 < signature.s
  s_lt : signature.s < order
  equation : ∃ (R : curve.Point) (x y : Coordinate), Point.ofGroup R = .finite x y ∧
    x.val % order = signature.r ∧
    (signature.s : ZMod order) • R = e • base + (signature.r : ZMod order) • Q

theorem scalar_ne_zero {k : ℕ} (hpos : 0 < k) (hlt : k < order) : (k : ZMod order) ≠ 0 := by
  rw [Ne, ZMod.natCast_eq_zero_iff]
  exact Nat.not_dvd_of_pos_of_lt hpos hlt

/-! ## What is recovered -/

theorem Candidate.ofPoint?_injective : Function.Injective Candidate.ofPoint? := by
  intro p q h
  cases p with
  | identity =>
    cases q with
    | identity => rfl
    | finite => cases h
  | finite x y =>
    cases q with
    | identity => cases h
    | finite x' y' =>
      simp only [ofPoint?, Option.some.injEq, Candidate.mk.injEq, Nat.cast_inj] at h
      rw [Fin.ext h.1, h.2]

/-- A lifted point is an element of the group with the given x coordinate and parity. -/
theorem Point.lift?_eq_some_iff_exists {x : Coordinate} {odd : Bool} {p : Point} :
    lift? x odd = some p ↔ ∃ R y, ofGroup R = p ∧ p = finite x y ∧ y.isOdd = odd := by
  rw [lift?_eq_some_iff]
  constructor
  · rintro ⟨y, rfl, hsq, _, hodd⟩
    obtain ⟨R, hR⟩ := exists_ofGroup_iff.mpr hsq
    exact ⟨R, y, hR, rfl, hodd⟩
  · rintro ⟨R, y, hR, rfl, hodd⟩
    exact ⟨y, rfl, exists_ofGroup_iff.mp ⟨R, hR⟩, y_ne_zero_of_ofGroup hR, hodd⟩

/-- The solution of the equation of signing. -/
theorem solve_ofGroup (R : curve.Point) (r s e : Scalar) :
    solve (Point.ofGroup R) r s e
      = Point.ofGroup ((residue r)⁻¹ • (residue s • R - residue e • base)) := by
  unfold solve
  rw [← ofGroup_base]
  dsimp only
  rw [Point.combination_ofGroup, residue_mul, residue_mul, residue_neg, Scalar.residue_inverse,
    mul_neg, neg_smul, ← sub_eq_add_neg, mul_smul, mul_smul, smul_sub]

/-- Digests for which the solutions are the same are the same scalar. -/
theorem eq_of_solve_eq {R : curve.Point} {r s e e' : Scalar} (hr : r ≠ 0)
    (h : solve (Point.ofGroup R) r s e = solve (Point.ofGroup R) r s e') : e = e' := by
  have hinv : (residue r)⁻¹ ≠ 0 := inv_ne_zero (mt residue_eq_zero_iff.mp hr)
  rw [solve_ofGroup, solve_ofGroup, Point.ofGroup_injective.eq_iff] at h
  have hdiff : residue s • R - residue e • base = residue s • R - residue e' • base :=
    smul_right_injective _ hinv h
  have hmultiple : residue e • base = residue e' • base := sub_right_injective hdiff
  exact residue_injective (smul_left_injective _ base_ne_zero hmultiple)

/-- The element that a signature names does not depend on the digest. -/
theorem exists_solve_of_recover {id r s : ℕ} {digest : Bytes} {c : Candidate}
    (h : recover id r s digest = .ok (some c)) :
    ∃ R, Scalar.ofInt r ≠ 0 ∧ ∀ digest', recover id r s digest' = .ok (Candidate.ofPoint?
      (solve (Point.ofGroup R) (Scalar.ofInt r) (Scalar.ofInt s) (digestScalar digest'))) := by
  unfold recover at h ⊢
  dsimp only at h ⊢
  by_cases hid : (id : ℤ) < 0 ∨ 3 < (id : ℤ)
  · rw [if_pos hid] at h
    cases h
  by_cases hx : (prime : ℤ) ≤ r + (id : ℤ) / 2 * order
  · rw [if_neg hid, if_pos hx] at h
    cases h
  rw [if_neg hid, if_neg hx] at h
  simp only [if_neg hid, if_neg hx]
  cases hlift : Point.lift? (Coordinate.ofInt (r + (id : ℤ) / 2 * order)) ((id : ℤ) % 2 == 1) with
  | none =>
    rw [hlift] at h
    cases h
  | some p =>
    obtain ⟨R, _, rfl, _⟩ := Point.lift?_eq_some_iff_exists.mp hlift
    rw [hlift] at h
    dsimp only at h ⊢
    by_cases hzero : (r : ℤ) = 0
    · rw [if_pos hzero] at h
      cases h
    by_cases hr : Scalar.ofInt r = 0
    · rw [if_neg hzero, if_pos hr] at h
      cases h
    have hreduced : ¬ ((r + (id : ℤ) / 2 * order : ℤ) < 0 ∧ (s : ℤ) = 1) := by
      have hnonneg : (0 : ℤ) ≤ (id : ℤ) / 2 * order := by positivity
      omega
    refine ⟨R, hr, fun digest' ↦ ?_⟩
    rw [if_neg hzero, if_neg hr, if_neg hreduced]

/-- The candidate that is recovered from a signature of one digest is recovered from it for another
digest exactly if both digests are the same scalar. -/
theorem recover_iff_of_recover {id r s : ℕ} {digest digest' : Bytes} {c : Candidate}
    (h : recover id r s digest = .ok (some c)) :
    recover id r s digest' = .ok (some c) ↔ digestScalar digest' = digestScalar digest := by
  obtain ⟨R, hr, hsolve⟩ := exists_solve_of_recover h
  rw [hsolve, Except.ok.injEq] at h
  rw [hsolve, Except.ok.injEq]
  constructor
  · intro h'
    exact eq_of_solve_eq hr (Candidate.ofPoint?_injective (h'.trans h.symm))
  · intro hsame
    rw [hsame]
    exact h

theorem Coordinate.ofInt_natCast (k : ℕ) : ofInt k = Fin.ofNat prime k := by
  rw [← residue_inj, residue_fin_ofNat, ofInt, residue_fin_ofNat, ← ZMod.natCast_mod k prime]
  rfl

theorem Scalar.ofInt_natCast (k : ℕ) : ofInt k = Fin.ofNat order k := by
  rw [← residue_inj, residue_fin_ofNat, ofInt, residue_fin_ofNat, ← ZMod.natCast_mod k order]
  rfl

/-- Recovery from the integers of a signature. -/
theorem recover_natCast {id r : ℕ} (hid : id < 4) (hpos : 0 < r) (hlt : r < order) (s : ℕ)
    (digest : Bytes) :
    recover id r s digest = .ok (if prime ≤ r + id / 2 * order then none
      else (Point.lift? (Fin.ofNat prime (r + id / 2 * order)) (id % 2 == 1)).bind fun p ↦
        Candidate.ofPoint? (solve p (Fin.ofNat order r) (Fin.ofNat order s)
          (digestScalar digest))) := by
  have hrange : ¬ ((id : ℤ) < 0 ∨ 3 < (id : ℤ)) := by omega
  have hx : (r : ℤ) + (id : ℤ) / 2 * (order : ℤ) = ((r + id / 2 * order : ℕ) : ℤ) := by
    push_cast
    rfl
  have hodd : ((id : ℤ) % 2 == 1) = (id % 2 == 1) := by
    rw [Bool.eq_iff_iff, beq_iff_eq, beq_iff_eq]
    omega
  have hr : ¬ (r : ℤ) = 0 := by omega
  have hrinv : ¬ Fin.ofNat order r = 0 := by
    rw [← residue_eq_zero_iff, residue_fin_ofNat]
    exact scalar_ne_zero hpos hlt
  unfold recover
  dsimp only
  rw [if_neg hrange, hx, hodd, Coordinate.ofInt_natCast, Scalar.ofInt_natCast,
    Scalar.ofInt_natCast]
  generalize r + id / 2 * order = x
  have hnonneg : ¬ ((x : ℤ) < 0 ∧ (s : ℤ) = 1) := by omega
  by_cases hprime : prime ≤ x
  · rw [if_pos (by omega), if_pos hprime]
  · rw [if_neg (by omega), if_neg hprime]
    cases Point.lift? (Fin.ofNat prime x) (id % 2 == 1) with
    | none => rfl
    | some p =>
      dsimp only
      rw [if_neg hr, if_neg hrinv, if_neg hnonneg]
      rfl

/-- A candidate is recovered exactly if it solves the equation of signing for the element that the
number of the candidate and the first integer of the signature name. -/
theorem recover_eq_some_iff {id r s : ℕ} {digest : Bytes} {Q : curve.Point} {c : Candidate}
    (hid : id < 4) (hpos : 0 < r) (hlt : r < order)
    (hQ : Candidate.ofPoint? (Point.ofGroup Q) = some c) :
    recover id r s digest = .ok (some c) ↔
      ∃ (R : curve.Point) (x y : Coordinate), Point.ofGroup R = .finite x y ∧
        x.val = r + id / 2 * order ∧ y.isOdd = (id % 2 == 1) ∧
        (s : ZMod order) • R = residue (digestScalar digest) • base + (r : ZMod order) • Q := by
  have hr := scalar_ne_zero hpos hlt
  have hsolve : ∀ R : curve.Point,
      Candidate.ofPoint? (solve (Point.ofGroup R) (Fin.ofNat order r) (Fin.ofNat order s)
          (digestScalar digest)) = some c ↔
        (s : ZMod order) • R = residue (digestScalar digest) • base + (r : ZMod order) • Q := by
    intro R
    rw [← hQ, Candidate.ofPoint?_injective.eq_iff, solve_ofGroup, Point.ofGroup_injective.eq_iff,
      residue_fin_ofNat, residue_fin_ofNat, inv_smul_eq_iff₀ hr, sub_eq_iff_eq_add']
  rw [recover_natCast hid hpos hlt, Except.ok.injEq]
  constructor
  · intro h
    split at h
    · cases h
    · rename_i hprime
      obtain ⟨p, hp, hc⟩ := Option.bind_eq_some_iff.mp h
      obtain ⟨R, y, rfl, hR, hodd⟩ := Point.lift?_eq_some_iff_exists.mp hp
      exact ⟨R, _, y, hR, Nat.mod_eq_of_lt (Nat.lt_of_not_le hprime), hodd, (hsolve R).mp hc⟩
  · rintro ⟨R, x, y, hR, hx, hodd, hequation⟩
    have hx' : Fin.ofNat prime (r + id / 2 * order) = x := by
      rw [← hx]
      exact Fin.ext (Nat.mod_eq_of_lt x.isLt)
    rw [if_neg (by have := x.isLt; omega), hx',
      Point.lift?_eq_some_iff_exists.mpr ⟨R, y, hR, rfl, hodd⟩, ← hR]
    exact (hsolve R).mpr hequation

/-- Exactly one candidate of a valid signature is its public point. -/
theorem Signature.Valid.existsUnique_recover {signature : Signature} {digest : Bytes}
    {Q : curve.Point} {c : Candidate}
    (h : signature.Valid (residue (digestScalar digest)) Q)
    (hQ : Candidate.ofPoint? (Point.ofGroup Q) = some c) :
    ∃! id : ℕ, id < 4 ∧ recover id signature.r signature.s digest = .ok (some c) := by
  obtain ⟨R, x, y, hR, hx, hequation⟩ := h.equation
  have hmod := Nat.div_add_mod x.val order
  have hquotient : x.val / order < 2 := by
    apply Nat.div_lt_of_lt_mul
    exact Nat.lt_trans x.isLt (by decide)
  have hparity : ∃ b < 2, y.isOdd = (b == 1) := by
    cases y.isOdd with
    | false => exact ⟨0, by decide, rfl⟩
    | true => exact ⟨1, by decide, rfl⟩
  obtain ⟨b, hb, hodd⟩ := hparity
  refine ⟨2 * (x.val / order) + b, ⟨by omega, ?_⟩, ?_⟩
  · refine (recover_eq_some_iff (by omega) h.r_pos h.r_lt hQ).mpr ⟨R, x, y, hR, ?_, ?_, hequation⟩
    · rw [show (2 * (x.val / order) + b) / 2 = x.val / order by omega, mul_comm]
      omega
    · rw [hodd, show (2 * (x.val / order) + b) % 2 = b by omega]
  · rintro id ⟨hid, hrecover⟩
    obtain ⟨R', x', y', hR', hx', hodd', hequation'⟩ :=
      (recover_eq_some_iff hid h.r_pos h.r_lt hQ).mp hrecover
    -- the second integer can be cancelled, so that the elements are the same
    have hsame : R' = R := by
      rw [← hequation] at hequation'
      exact smul_right_injective _ (scalar_ne_zero h.s_pos h.s_lt) hequation'
    rw [hsame, hR] at hR'
    cases hR'
    have hdiv : x.val / order = id / 2 := by
      rw [hx', Nat.add_mul_div_right _ _ (by decide), Nat.div_eq_of_lt h.r_lt, zero_add]
    have hb' : b = id % 2 := by
      rw [hodd, Bool.eq_iff_iff, beq_iff_eq, beq_iff_eq] at hodd'
      omega
    omega

end GrapheneSigner.Secp256k1
