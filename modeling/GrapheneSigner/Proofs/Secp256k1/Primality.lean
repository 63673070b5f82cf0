import Mathlib.Data.List.Prime
import Mathlib.NumberTheory.LucasPrimality
import Mathlib.Tactic.NormNum.Prime
import GrapheneSigner.Proofs.Secp256k1.Residue

/-!
# The moduli are primes

Lucas's test shows that a number is a prime by a primitive root and the factors of the number less
one, which are shown to be primes in the same way.  A certificate lists the tests in order, from
small primes to the modulus of coordinates and the order of the group.
-/

namespace GrapheneSigner.Secp256k1

/-- What Lucas's test needs: the number less one, a primitive root, and the prime factors of the
number less one. -/
structure LucasTest where
  pred : ℕ
  root : ℕ
  factors : List ℕ

namespace LucasTest

/-- The number that is tested. -/
def number (t : LucasTest) : ℕ := t.pred + 1

/-- The test, given the primes that are known before it. -/
def passes (known : List ℕ) (t : LucasTest) : Bool :=
  let root := Fin.ofNat (t.pred + 1) t.root
  t.factors.prod == t.pred && t.factors.all known.contains && power 1 root t.pred == 1 &&
    t.factors.all fun q ↦ power 1 root (t.pred / q) != 1

theorem prime_of_passes {known : List ℕ} {t : LucasTest} (hknown : ∀ q ∈ known, q.Prime)
    (h : t.passes known = true) : t.number.Prime := by
  simp only [passes, Bool.and_eq_true, beq_iff_eq, List.all_eq_true, bne_iff_ne, ne_eq,
    List.contains_iff_mem] at h
  obtain ⟨⟨⟨hprod, hfactors⟩, hfull⟩, hparts⟩ := h
  apply lucas_primality t.number (residue (Fin.ofNat (t.pred + 1) t.root))
  · have hpower := congrArg residue hfull
    rwa [residue_power, residue_one] at hpower
  · intro q hq hdvd hpower
    -- a prime factor of the product is one of the listed ones
    have hpred : t.number - 1 = t.factors.prod := hprod.symm
    rw [hpred] at hdvd
    obtain ⟨factor, hmem, hq'⟩ := (Prime.dvd_prod_iff hq.prime).mp hdvd
    have heq : q = factor := (Nat.prime_dvd_prime_iff_eq hq (hknown _ (hfactors _ hmem))).mp hq'
    subst heq
    apply hparts q hmem
    rw [← residue_inj, residue_power, residue_one]
    exact hpower

/-- Tests one after another, each of which may use the primes of those before it. -/
def allPass (known : List ℕ) : List LucasTest → Bool
  | [] => true
  | t :: rest => t.passes known && allPass (t.number :: known) rest

theorem prime_of_allPass {known : List ℕ} {ts : List LucasTest} (hknown : ∀ q ∈ known, q.Prime)
    (h : allPass known ts = true) {t : LucasTest} (ht : t ∈ ts) : t.number.Prime := by
  induction ts generalizing known with
  | nil => cases ht
  | cons first rest ih =>
    rw [allPass, Bool.and_eq_true] at h
    have hfirst := prime_of_passes hknown h.1
    rcases List.mem_cons.mp ht with rfl | ht
    · exact hfirst
    · exact ih (List.forall_mem_cons.mpr ⟨hfirst, hknown⟩) h.2 ht

end LucasTest

/-- The small primes of the certificate. -/
def smallPrimes : List ℕ :=
  [2, 3, 5, 7, 11, 17, 19, 29, 31, 41, 53, 59, 97, 109, 113, 149, 293, 461, 631, 797, 971, 1373,
   1627, 1871, 2011, 2621, 2657, 2731, 4051, 4423, 5323, 7723, 9349, 13441, 16699, 20113, 24809,
   28181, 41201, 85831, 96557]

theorem prime_of_mem_smallPrimes : ∀ q ∈ smallPrimes, q.Prime := by
  simp only [smallPrimes, List.forall_mem_cons]
  norm_num

/-- The tests that lead to the two moduli. -/
def certificate : List LucasTest :=
  [⟨120232, 3, [2, 2, 2, 7, 19, 113]⟩,
   ⟨305872, 3, [2, 2, 2, 2, 7, 2731]⟩,
   ⟨1206780, 10, [2, 2, 3, 5, 20113]⟩,
   ⟨1627770, 3, [2, 3, 5, 29, 1871]⟩,
   ⟨4681608, 23, [2, 2, 2, 3, 97, 2011]⟩,
   ⟨7240686, 3, [2, 3, 1206781]⟩,
   ⟨13331830, 13, [2, 5, 971, 1373]⟩,
   ⟨44706918, 6, [2, 3, 797, 9349]⟩,
   ⟨107590000, 3, [2, 2, 2, 2, 5, 5, 5, 5, 7, 29, 53]⟩,
   ⟨545358712, 5, [2, 2, 2, 41, 59, 28181]⟩,
   ⟨297159362676, 2, [2, 2, 3, 3, 11, 461, 1627771]⟩,
   ⟨107361793816595536, 3, [2, 2, 2, 2, 16699, 85831, 4681609]⟩,
   ⟨173378833005251800, 6, [2, 2, 2, 5, 5, 2621, 24809, 13331831]⟩,
   ⟨174723607534414371448, 3, [2, 2, 2, 17, 59, 4051, 120233, 44706919]⟩,
   ⟨22149492674086928081352, 5, [2, 2, 2, 3, 5323, 173378833005251801]⟩,
   ⟨132896956044521568488118, 6, [2, 3, 22149492674086928081353]⟩,
   ⟨29047611873442575647497758178, 2, [2, 293, 305873, 545358713, 297159362677]⟩,
   ⟨341948486974166000522343609283188, 2, [2, 2, 3, 3, 3, 109, 29047611873442575647497758179]⟩,
   ⟨255515944373312847190720520512484175976, 3, [2, 2, 2, 7, 7, 11, 1627, 2657, 4423, 41201,
     96557, 7240687, 107590001]⟩,
   ⟨205115282021455665897114700593932402728804164701536103180137503955397370, 10, [2, 3, 5, 29,
     29, 31, 7723, 132896956044521568488119, 255515944373312847190720520512484175977]⟩,
   ⟨115792089237316195423570985008687907852837564279074904382605163141518161494336, 7, [2, 2, 2,
     2, 2, 2, 3, 149, 631, 107361793816595537, 174723607534414371449,
     341948486974166000522343609283189]⟩,
   ⟨115792089237316195423570985008687907853269984665640564039457584007908834671662, 3, [2, 3, 7,
     13441, 205115282021455665897114700593932402728804164701536103180137503955397371]⟩]

theorem prime_of_mem_certificate {t : LucasTest} (ht : t ∈ certificate) : t.number.Prime :=
  LucasTest.prime_of_allPass prime_of_mem_smallPrimes (by decide +kernel) ht

instance : Fact prime.Prime :=
  ⟨prime_of_mem_certificate (t := certificate[certificate.length - 1]) (List.getElem_mem _)⟩

instance : Fact order.Prime :=
  ⟨prime_of_mem_certificate (t := certificate[certificate.length - 2]) (List.getElem_mem _)⟩

end GrapheneSigner.Secp256k1
