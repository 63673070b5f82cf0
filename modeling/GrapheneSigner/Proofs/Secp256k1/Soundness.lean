import GrapheneSigner.Proofs.Secp256k1.Recovery
import GrapheneSigner.Proofs.Wire.Refusal

/-!
# Recovery is sound

The number of a candidate and the first integer of a signature name an element of the group, if the
curve has a point with such an x coordinate.  What is recovered is the solution of the equation of
signing for this element.  So a point that is recovered lies on the curve, and the signature is
valid under it: the element that the equation of verification gives is the one that is named.
Nothing is recovered exactly if no element is named, or if the solution is the identity.
-/

namespace GrapheneSigner.Secp256k1

variable {id r s : ℕ} {R : curve.Point} {x y : Coordinate}

/-! ## The element that is named -/

/-- The element has the x coordinate and the parity that the number of a candidate and the first
integer of a signature name. -/
structure Names (id r : ℕ) (R : curve.Point) (x y : Coordinate) : Prop where
  ofGroup_eq : Point.ofGroup R = .finite x y
  x_eq : x.val = r + id / 2 * order
  isOdd_eq : y.isOdd = (id % 2 == 1)

namespace Names

theorem lt (h : Names id r R x y) : r + id / 2 * order < prime := h.x_eq ▸ x.isLt

theorem fin_ofNat_eq (h : Names id r R x y) : Fin.ofNat prime (r + id / 2 * order) = x :=
  Fin.ext ((Nat.mod_eq_of_lt h.lt).trans h.x_eq.symm)

/-- The named element has the first integer as its x coordinate modulo the order. -/
theorem x_mod (h : Names id r R x y) (hlt : r < order) : x.val % order = r := by
  rw [h.x_eq, Nat.add_mul_mod_self_right, Nat.mod_eq_of_lt hlt]

end Names

/-- An element is named if the x coordinate is one of a point of the curve. -/
theorem exists_names_iff :
    (∃ R x y, Names id r R x y) ↔ r + id / 2 * order < prime ∧
      ∃ y : ZMod prime, y ^ 2 = ((r + id / 2 * order : ℕ) : ZMod prime) ^ 3 + 7 := by
  constructor
  · rintro ⟨R, x, y, h⟩
    refine ⟨h.lt, residue y, ?_⟩
    rw [← residue_fin_ofNat, h.fin_ofNat_eq]
    exact Point.exists_ofGroup_iff.mp ⟨R, h.ofGroup_eq⟩
  · rintro ⟨hlt, y, hy⟩
    rw [← residue_fin_ofNat, ← residue_coordinate y] at hy
    obtain ⟨R, hR⟩ := Point.exists_ofGroup_iff.mpr hy
    have hx : (Fin.ofNat prime (r + id / 2 * order)).val = r + id / 2 * order :=
      Nat.mod_eq_of_lt hlt
    by_cases hodd : (coordinate y).isOdd = (id % 2 == 1)
    · exact ⟨R, _, _, hR, hx, hodd⟩
    · -- the opposite element has the other parity
      refine ⟨-R, _, _, Point.ofGroup_neg hR, hx, ?_⟩
      rw [Coordinate.isOdd_neg (y_ne_zero_of_ofGroup hR), Bool.not_eq]
      exact hodd

/-! ## The solution -/

/-- The solution of the equation of signing for an element. -/
noncomputable def solution (r s : ℕ) (e : ZMod order) (R : curve.Point) : curve.Point :=
  (r : ZMod order)⁻¹ • ((s : ZMod order) • R - e • base)

theorem solution_eq_iff (hr : (r : ZMod order) ≠ 0) {e : ZMod order} {Q : curve.Point} :
    solution r s e R = Q ↔ (s : ZMod order) • R = e • base + (r : ZMod order) • Q := by
  unfold solution
  rw [inv_smul_eq_iff₀ hr, sub_eq_iff_eq_add']

/-- The equation of verification gives the element back. -/
theorem verified_solution (hr : (r : ZMod order) ≠ 0) (hs : (s : ZMod order) ≠ 0) (e : ZMod order) :
    ((s : ZMod order)⁻¹ * e) • base + ((s : ZMod order)⁻¹ * r) • solution r s e R = R := by
  have hequation : (s : ZMod order) • R = e • base + (r : ZMod order) • solution r s e R :=
    (solution_eq_iff hr).mp rfl
  calc
    _ = (s : ZMod order)⁻¹ • (e • base + (r : ZMod order) • solution r s e R) := by
      rw [mul_smul, mul_smul, smul_add]
    _ = (s : ZMod order)⁻¹ • (s : ZMod order) • R := by
      rw [hequation]
    _ = R := inv_smul_smul₀ hs R

theorem ofPoint?_ofGroup_eq_none_iff {Q : curve.Point} :
    Candidate.ofPoint? (Point.ofGroup Q) = none ↔ Q = 0 := by
  rw [← Point.ofGroup_eq_identity_iff]
  exact Candidate.ofPoint?_injective.eq_iff' rfl

/-- A candidate that is an element of the group is known by the coordinates of it. -/
theorem exists_of_ofPoint?_ofGroup {Q : curve.Point} {c : Candidate}
    (h : Candidate.ofPoint? (Point.ofGroup Q) = some c) :
    Q ≠ 0 ∧ ∃ u : Coordinate, Point.ofGroup Q = .finite u c.y ∧ c.x = u.val := by
  constructor
  · rintro rfl
    cases h
  · cases hQ : Point.ofGroup Q with
    | identity =>
      rw [hQ] at h
      cases h
    | finite u v =>
      rw [hQ] at h
      cases h
      exact ⟨u, rfl, rfl⟩

section

variable (hid : id < 4) (hpos : 0 < r) (hlt : r < order) (s : ℕ) (digest : Bytes)

include hid hpos hlt

/-- The solution for the named element is recovered. -/
theorem recover_of_names (h : Names id r R x y) :
    recover id r s digest = .ok (Candidate.ofPoint?
      (Point.ofGroup (solution r s (residue (digestScalar digest)) R))) := by
  have hlift : Point.lift? x (id % 2 == 1) = some (Point.ofGroup R) :=
    Point.lift?_eq_some_iff_exists.mpr ⟨R, y, rfl, h.ofGroup_eq, h.isOdd_eq⟩
  rw [recover_natCast hid hpos hlt, if_neg (Nat.not_le_of_lt h.lt), h.fin_ofNat_eq, hlift,
    Option.bind_some, solve_ofGroup, residue_fin_ofNat, residue_fin_ofNat]
  rfl

/-- Without named element nothing is recovered. -/
theorem recover_of_not_names (h : ¬ ∃ R x y, Names id r R x y) :
    recover id r s digest = .ok none := by
  rw [recover_natCast hid hpos hlt, Except.ok.injEq]
  split
  · rfl
  · rename_i hprime
    rw [Option.bind_eq_none_iff]
    intro p hp
    obtain ⟨R, y, rfl, hR, hodd⟩ := Point.lift?_eq_some_iff_exists.mp hp
    exact absurd ⟨R, _, y, hR, Nat.mod_eq_of_lt (Nat.lt_of_not_le hprime), hodd⟩ h

/-- Recovery does not fail. -/
theorem exists_recover : ∃ answer, recover id r s digest = .ok answer :=
  ⟨_, recover_natCast hid hpos hlt s digest⟩

/-- A candidate is the solution for a named element. -/
theorem exists_names_of_recover {c : Candidate} (h : recover id r s digest = .ok (some c)) :
    ∃ R x y, Names id r R x y ∧ Candidate.ofPoint?
      (Point.ofGroup (solution r s (residue (digestScalar digest)) R)) = some c := by
  by_cases hnames : ∃ R x y, Names id r R x y
  · obtain ⟨R, x, y, hR⟩ := hnames
    rw [recover_of_names hid hpos hlt s digest hR, Except.ok.injEq] at h
    exact ⟨R, x, y, hR, h⟩
  · rw [recover_of_not_names hid hpos hlt s digest hnames] at h
    cases h

/-- Nothing is recovered exactly if no element is named, or if the solution is the identity. -/
theorem recover_eq_none_iff :
    recover id r s digest = .ok none ↔ (¬ ∃ R x y, Names id r R x y) ∨
      ∃ R x y, Names id r R x y ∧
        (s : ZMod order) • R = residue (digestScalar digest) • base := by
  have hzero : ∀ R : curve.Point, solution r s (residue (digestScalar digest)) R = 0 ↔
      (s : ZMod order) • R = residue (digestScalar digest) • base := by
    intro R
    rw [solution_eq_iff (scalar_ne_zero hpos hlt), smul_zero, add_zero]
  constructor
  · intro h
    by_cases hnames : ∃ R x y, Names id r R x y
    · obtain ⟨R, x, y, hR⟩ := hnames
      rw [recover_of_names hid hpos hlt s digest hR, Except.ok.injEq,
        ofPoint?_ofGroup_eq_none_iff, hzero] at h
      exact .inr ⟨R, x, y, hR, h⟩
    · exact .inl hnames
  · rintro (hnames | ⟨R, x, y, hR, h⟩)
    · exact recover_of_not_names hid hpos hlt s digest hnames
    · rw [recover_of_names hid hpos hlt s digest hR, Except.ok.injEq,
        ofPoint?_ofGroup_eq_none_iff, hzero]
      exact h

end

/-- Recovery is sound, and it gives up only where there is no solution.

A point that is recovered lies on the curve and is not the identity.  The signature is valid under
it, and the element that the equation of verification gives is the one with the x coordinate and the
parity that the number of the candidate names.

Nothing is recovered exactly if the x coordinate is out of range, if no point of the curve has it,
or if the multiple of the named element by the second integer is the multiple of the generator by
the digest. -/
theorem recover_sound (hid : id < 4) (hr : 0 < r ∧ r < order) (hs : 0 < s ∧ s < order)
    (digest : Bytes) :
    (∀ c, recover id r s digest = .ok (some c) → ∃ (Q : curve.Point) (u x y : Coordinate),
      Q ≠ 0 ∧ Point.ofGroup Q = .finite u c.y ∧ c.x = u.val ∧
      residue c.y ^ 2 = residue u ^ 3 + 7 ∧
      Point.ofGroup (((s : ZMod order)⁻¹ * residue (digestScalar digest)) • base
        + ((s : ZMod order)⁻¹ * r) • Q) = .finite x y ∧
      x.val % order = r ∧ x.val = r + id / 2 * order ∧ y.isOdd = (id % 2 == 1)) ∧
    (recover id r s digest = .ok none ↔
      prime ≤ r + id / 2 * order ∨
      (∀ y : ZMod prime, y ^ 2 ≠ ((r + id / 2 * order : ℕ) : ZMod prime) ^ 3 + 7) ∨
      ∃ R x y, Names id r R x y ∧
        (s : ZMod order) • R = residue (digestScalar digest) • base) ∧
    ∃ answer, recover id r s digest = .ok answer := by
  refine ⟨?_, ?_, exists_recover hid hr.1 hr.2 s digest⟩
  · intro c hc
    obtain ⟨R, x, y, hR, hQ⟩ := exists_names_of_recover hid hr.1 hr.2 s digest hc
    obtain ⟨hne, u, hu, hx⟩ := exists_of_ofPoint?_ofGroup hQ
    have hverified := verified_solution (R := R) (scalar_ne_zero hr.1 hr.2)
      (scalar_ne_zero hs.1 hs.2) (residue (digestScalar digest))
    refine ⟨_, u, x, y, hne, hu, hx, Point.exists_ofGroup_iff.mp ⟨_, hu⟩, ?_, hR.x_mod hr.2,
      hR.x_eq, hR.isOdd_eq⟩
    rw [hverified]
    exact hR.ofGroup_eq
  · rw [recover_eq_none_iff hid hr.1 hr.2, exists_names_iff, not_and_or, Nat.not_lt, not_exists,
      or_assoc]

/-- The x coordinate of the generator and twice of it are a signature of the bytes of this
coordinate, from which the generator is recovered.  With the coordinate itself as the second integer
nothing is recovered, since the solution is the identity. -/
theorem recover_sound_generator :
    let r : ℕ := 0x79BE667EF9DCBBAC55A06295CE870B07029BFCDB2DCE28D959F2815B16F81798
    let c : Candidate := ⟨r, 0x483ADA7726A3C4655DA4FBFC0E1108A8FD17B448A68554199C47D08FFB10D4B8⟩
    let digest := bigEndian 32 r
    (0 < r ∧ r < order) ∧ (0 < 2 * r ∧ 2 * r < order) ∧
      recover (0 : ℕ) r (2 * r : ℕ) digest = .ok (some c) ∧
      recover (0 : ℕ) r r digest = .ok none ∧
      (∃ (Q : curve.Point) (x y : Coordinate), Q ≠ 0 ∧ residue c.y ^ 2 = (r : ZMod prime) ^ 3 + 7 ∧
        Point.ofGroup Q = .generator ∧
        Point.ofGroup ((((2 * r : ℕ) : ZMod order)⁻¹ * residue (digestScalar digest)) • base
          + (((2 * r : ℕ) : ZMod order)⁻¹ * r) • Q) = .finite x y ∧
        x.val = r ∧ y.isOdd = false) ∧
      ∃ R x y, Names 0 r R x y ∧ (r : ZMod order) • R = residue (digestScalar digest) • base := by
  intro r c digest
  have hr : 0 < r ∧ r < order := by decide
  have hs : 0 < 2 * r ∧ 2 * r < order := by decide
  have hsome : recover (0 : ℕ) r (2 * r : ℕ) digest = .ok (some c) :=
    eq_ok_of_toOption (by decide +kernel)
  have hnone : recover (0 : ℕ) r r digest = .ok none := eq_ok_of_toOption (by decide +kernel)
  obtain ⟨Q, u, x, y, hne, hQ, hu, hcurve, hverified, _, hx, hodd⟩ :=
    (recover_sound (by decide) hr hs digest).1 c hsome
  have hu' : u = ⟨r, by decide⟩ := Fin.ext (Int.natCast_inj.mp hu).symm
  subst hu'
  refine ⟨hr, hs, hsome, hnone, ⟨Q, x, y, hne, hcurve, hQ, hverified, hx, hodd⟩, ?_⟩
  rcases (recover_sound (by decide) hr hr digest).2.1.mp hnone with hlarge | hno | hzero
  · exact absurd hlarge (by decide)
  · exact absurd hcurve (hno _)
  · exact hzero

end GrapheneSigner.Secp256k1
