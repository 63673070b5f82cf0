import GrapheneSigner.Proofs.Signing.Discovery
import GrapheneSigner.Proofs.Signing.WireEquality

/-!
# The signers of a pass

A compact signature names its signer: the public point that is recovered from it, and the form of
that point in its header.  Signing lists each key once, and keys are told apart by their signers, so
that a pass never has two signatures of one signer.  Two signatures of one public point it can have,
since the two forms of the point belong to different keys.
-/

namespace GrapheneSigner

open Secp256k1

/-- A public point and whether its short form is used. -/
structure Signer where
  point : Candidate
  compressed : Bool
  deriving DecidableEq

/-- The signer that a key is. -/
def KeyPair.signer? (k : KeyPair) : Option Signer :=
  (Candidate.ofPoint? k.publicPoint).map fun point ↦ ⟨point, k.compressed⟩

/-- The signer of a digest that the hexadecimal digits of a compact signature name. -/
def Compact.signer? (digest : Bytes) (text : Text) : Option Signer := do
  let b ← (Hex.read text).toOption
  let parts ← parts? b
  let recovered ← (recover parts digest).toOption
  let point ← recovered
  return ⟨point, (header b - 27).testBit 2⟩

namespace KeyPair

/-- Different keys are different signers. -/
theorem signer?_injective : Function.Injective signer? := by
  intro k k' h
  obtain ⟨c, hc⟩ := k.exists_candidate
  obtain ⟨c', hc'⟩ := k'.exists_candidate
  unfold signer? at h
  rw [hc, hc', Option.map_some, Option.map_some, Option.some.injEq, Signer.mk.injEq] at h
  obtain ⟨hpoint, hform⟩ := h
  refine eq_of_publicPoint (Candidate.ofPoint?_injective ?_) hform
  rw [hc, hc', hpoint]

theorem exists_signer (k : KeyPair) : ∃ signer, k.signer? = some signer := by
  obtain ⟨c, hc⟩ := k.exists_candidate
  exact ⟨⟨c, k.compressed⟩, by unfold signer?; rw [hc, Option.map_some]⟩

/-- The signers of different keys are different. -/
theorem exists_signers {keys : List KeyPair} (h : keys.Nodup) :
    ∃ signers : List Signer, keys.map signer? = signers.map some ∧ signers.Nodup := by
  choose signer hsigner using exists_signer
  have hmap : keys.map signer? = (keys.map signer).map some := by
    rw [List.map_map]
    exact List.map_congr_left fun k _ ↦ hsigner k
  refine ⟨keys.map signer, hmap, ?_⟩
  have hnodup := h.map signer?_injective
  rw [hmap] at hnodup
  exact hnodup.of_map some

end KeyPair

namespace Compact

/-- A signature names the key that made it. -/
theorem SignedBy.signer?_eq {k : KeyPair} {digest b : Bytes} (h : SignedBy k digest b)
    {text : Text} (htext : Hex.read text = .ok b) : signer? digest text = k.signer? := by
  obtain ⟨c, hc, hrecover⟩ := h.recovers
  have hid : Parts.id ⟨b.getD 0 0, first b, second b⟩ = ((header b - 27) % 4 : Nat) := by
    have hbase := h.base_le
    have hheader : (b.getD 0 0).toNat = header b := rfl
    have hemod : Parts.id ⟨b.getD 0 0, first b, second b⟩
        = (((b.getD 0 0).toNat : Int) - 27) % 4 := rfl
    rw [hemod, hheader]
    omega
  have hrecovered : recover ⟨b.getD 0 0, first b, second b⟩ digest = .ok (some c) := by
    unfold recover
    rw [hid, hrecover]
    rfl
  unfold signer? KeyPair.signer?
  rw [hc, htext, ← h.compressed_eq]
  simp only [Except.toOption, parts?_of_length h.length_eq, hrecovered, Option.bind_eq_bind,
    Option.bind_some, Option.map_some, Option.pure_def]

end Compact

namespace Transaction

/-- The signatures that a search gives name the keys. -/
theorem signers_of_search {t : Transaction} {chain : Bytes} {keys : List KeyPair}
    {attempts remaining : Nat} {signatures : List Bytes} {left : Transaction}
    (h : search chain keys attempts t remaining = (left, .ok signatures)) :
    ∃ digest, left.digest chain = .ok digest ∧
      (signatures.map Bytes.hex).map (Compact.signer? digest) = keys.map KeyPair.signer? := by
  have hattempt := attempt_of_search (congrArg Prod.snd h)
  rw [h] at hattempt
  obtain ⟨digest, hdigest, hall⟩ := exists_of_bind_eq_ok hattempt
  refine ⟨digest, hdigest, ?_⟩
  have hforall := forall₂_of_signAll hall
  clear h hattempt hdigest hall
  induction hforall with
  | nil => rfl
  | cons hsigns _ ih =>
    have hsigned := KeyPair.signedBy_of_signCompact hsigns.1 hsigns.2
    rw [List.map_cons, List.map_cons, List.map_cons, ih, hsigned.signer?_eq (Hex.read_hex _)]

end Transaction

namespace SignedTransaction

open Transaction

variable {σ : Type}

/-- The signatures of a pass over the digest of what it leaves name the keys that it found, in
order, and no signer is named twice: if the same public point is recovered from two signatures, then
their headers tell its two forms apart. -/
theorem nodup_signers_of_sign (t : SignedTransaction) (lookup : Lookup σ) (config : Config)
    (chainId : Value) (s : σ) {texts : List Text}
    (h : (t.sign lookup config chainId s).1.result = .ok texts) :
    ∃ (keys : List KeyPair) (chain digest : Bytes) (signers : List Signer),
      (Resolver.resolve lookup t.operations s).1 = .ok keys ∧
      chainOf config chainId = .ok chain ∧
      (t.sign lookup config chainId s).1.left.digest chain = .ok digest ∧
      texts.map (Compact.signer? digest) = signers.map some ∧
      keys.map KeyPair.signer? = signers.map some ∧
      signers.Nodup := by
  obtain ⟨keys, chain, signatures, _, hkeys, hchain, _, hsearch, rfl, _⟩ := search_of_sign h
  obtain ⟨digest, hdigest, hsigners⟩ := signers_of_search hsearch
  obtain ⟨signers, hmap, hnodup⟩ := KeyPair.exists_signers (Resolver.nodup_of_resolve hkeys)
  exact ⟨keys, chain, digest, signers, hkeys, hchain, hdigest, hsigners.trans hmap, hmap, hnodup⟩

/-! ### A document that one secret signs twice -/

section Document

/-- The key of the voter in its other form. -/
def plainKey : KeyPair := { voterKey with compressed := false }

/-- Both accounts have the same secret, but in different forms. -/
def twinWallets : KeyStore :=
  ⟨[(voter, [(.posting, voterKey)]), (witness, [(.posting, plainKey)])]⟩

/-- The signature of the document by the key in its other form. -/
def plainSignature : Bytes := 28 :: bigEndian 32 documentParts.r ++ bigEndian 32 documentParts.s

theorem signsCanonically_voterKey :
    voterKey.SignsCanonically documentDigest documentSignature :=
  ⟨documentCalculation.signCompact (length_bigEndian _ _) (by decide) rfl, rfl⟩

theorem signsCanonically_plainKey : plainKey.SignsCanonically documentDigest plainSignature :=
  ⟨documentCalculation.signCompact_inForm false (length_bigEndian _ _) (by decide)
    (eq_ok_of_toOption (by decide +kernel)), rfl⟩

theorem digest_document :
    (signable [voter, witness]).toTransaction.digest zeroChain = .ok documentDigest :=
  eq_ok_of_toOption (by decide +kernel)

theorem sign_document :
    ((signable [voter, witness]).sign KeyStore.lookup network .null twinWallets).1.result
        = .ok [documentSignature.hex, plainSignature.hex] ∧
      ((signable [voter, witness]).sign KeyStore.lookup network .null twinWallets).1.left
        = { signable [voter, witness] with
            signatures := [.chars documentSignature.hex, .chars plainSignature.hex] } := by
  have hkeys : (Resolver.resolve KeyStore.lookup (signable [voter, witness]).operations
      twinWallets).1 = .ok [voterKey, plainKey] := rfl
  have hready : (signable [voter, witness]).checkPreconditions = .ok () := rfl
  have hprepared : ((signable [voter, witness]).toTransaction.prepareExpiration network).result
      = .ok () := rfl
  exact sign_of_forall₂ hready hkeys chainOf_network rfl hprepared digest_document
    (.cons signsCanonically_voterKey (.cons signsCanonically_plainKey .nil)) rfl

/-- The two signatures of the document name two signers. -/
theorem nodup_signers_of_sign_document :
    ((signable [voter, witness]).sign KeyStore.lookup network .null twinWallets).1.result
        = .ok [documentSignature.hex, plainSignature.hex] ∧
      ∃ digest first second,
        Compact.signer? digest documentSignature.hex = some first ∧
        Compact.signer? digest plainSignature.hex = some second ∧ first ≠ second := by
  obtain ⟨_, _, digest, signers, _, _, _, htexts, _, hnodup⟩ := nodup_signers_of_sign
    (signable [voter, witness]) KeyStore.lookup network .null twinWallets sign_document.1
  rw [List.map_cons, List.map_cons, List.map_nil, eq_comm] at htexts
  obtain ⟨first, rest, rfl, hfirst, hrest⟩ := List.map_eq_cons_iff.mp htexts
  obtain ⟨second, _, rfl, hsecond, _⟩ := List.map_eq_cons_iff.mp hrest
  exact ⟨sign_document.1, digest, first, second, hfirst.symm, hsecond.symm,
    List.ne_of_not_mem_cons (List.nodup_cons.mp hnodup).1⟩

/-- A pass can have two signatures of one public point: both signatures of the document recover the
point of the voter. -/
theorem exists_point_recovered_twice :
    ((signable [voter, witness]).sign KeyStore.lookup network .null twinWallets).1.result
        = .ok [documentSignature.hex, plainSignature.hex] ∧
      ∃ digest, ((signable [voter, witness]).sign KeyStore.lookup network .null
          twinWallets).1.left.digest zeroChain = .ok digest ∧
        [documentSignature.hex, plainSignature.hex].map
            (fun text ↦ (Compact.signer? digest text).map Signer.point)
          = [some voterPoint, some voterPoint] := by
  obtain ⟨hresult, hleft⟩ := sign_document
  refine ⟨hresult, documentDigest, by rw [hleft]; exact digest_document, ?_⟩
  have hfirst := (KeyPair.signedBy_of_signCompact signsCanonically_voterKey.1
    signsCanonically_voterKey.2).signer?_eq (Hex.read_hex _)
  have hsecond := (KeyPair.signedBy_of_signCompact signsCanonically_plainKey.1
    signsCanonically_plainKey.2).signer?_eq (Hex.read_hex _)
  have hpoint : Candidate.ofPoint? plainKey.publicPoint = some voterPoint := ofPoint?_voterKey
  simp only [List.map_cons, List.map_nil, hfirst, hsecond, KeyPair.signer?, ofPoint?_voterKey,
    hpoint, Option.map_some]

end Document

end SignedTransaction

end GrapheneSigner
