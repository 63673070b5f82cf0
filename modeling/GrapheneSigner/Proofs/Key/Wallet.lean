import GrapheneSigner.Key.Wallet
import GrapheneSigner.Proofs.Text.Base58
import GrapheneSigner.Proofs.Text.Blank
import GrapheneSigner.Proofs.Wire.Integer
import GrapheneSigner.Proofs.Wire.Refusal

/-!
# The wallet form of secrets

A text is read as a key pair exactly if it is, up to blanks at its end, the base 58 text of the
version byte, a secret, possibly the byte 1, and the checksum of all these.  Every other text is
refused as bad key material.  A key pair is read back from its own wallet form, which is the only
text for its secret without the byte 1.
-/

namespace GrapheneSigner

/-- The failure reports bad key material. -/
def Failure.IsKeyFault (e : Failure) : Prop :=
  ∃ fault, e = .own fault ∧ fault.report.kind = .curveKey

namespace KeyPair

variable {b : Bytes} {c : Bool} {k : KeyPair} {e : Failure}

theorem secret_lt_byteRange (k : KeyPair) : k.secret < byteRange 32 :=
  k.secret_lt.trans (by decide)

/-- A key pair is read from the bytes of its secret and from no others. -/
theorem ofBytes_eq_ok_iff : ofBytes b c = .ok k ↔ k.compressed = c ∧ b = k.toBytes := by
  constructor
  · intro h
    unfold ofBytes at h
    split at h
    · cases h
    · rename_i hlength
      dsimp only at h
      split at h
      · cases h
        refine ⟨rfl, ?_⟩
        have hbytes := bigEndian_ofBigEndian b
        rw [not_not.mp hlength] at hbytes
        exact hbytes.symm
      · cases h
  · rintro ⟨rfl, rfl⟩
    have hvalue : ofBigEndian k.toBytes = k.secret := ofBigEndian_bigEndian k.secret_lt_byteRange
    have hrange : 0 < ofBigEndian k.toBytes ∧ ofBigEndian k.toBytes < Secp256k1.order := by
      rw [hvalue]
      exact ⟨k.secret_pos, k.secret_lt⟩
    have hlength : k.toBytes.length = 32 := length_bigEndian 32 k.secret
    unfold ofBytes
    rw [if_neg (not_not.mpr hlength)]
    dsimp only
    rw [dif_pos hrange]
    simp only [hvalue]

theorem isKeyFault_of_ofBytes (h : ofBytes b c = .error e) : e.IsKeyFault := by
  unfold ofBytes at h
  split at h
  · cases h
    exact ⟨_, rfl, rfl⟩
  · dsimp only at h
    split at h
    · cases h
    · cases h
      exact ⟨_, rfl, rfl⟩

end KeyPair

namespace Wallet

variable {t : Text} {b payload : Bytes} {c : Bool} {k : KeyPair} {e : Failure}

/-- The text is the base 58 text of the byte 0x80, the 32 bytes of a secret, the bytes of `suffix`,
and the first four bytes of the double hash of all these. -/
def IsForm (t : Text) (secret : Nat) (suffix : Bytes) : Prop :=
  let payload := 0x80 :: (bigEndian 32 secret ++ suffix)
  Base58.Represents t (payload ++ (sha256 (sha256 payload)).take 4)

theorem length_checksum (payload : Bytes) : (checksum payload).length = 4 := by
  rw [checksum, List.length_take, length_sha256]
  rfl

/-- A text has a payload if the payload with its checksum belongs to the text. -/
theorem read?_eq_some_iff :
    read? t = some payload ↔ Base58.Represents t (payload ++ checksum payload) := by
  rw [← Base58.decode?_eq_some_iff]
  unfold read?
  constructor
  · intro h
    cases hdecode : Base58.decode? t with
    | none =>
      rw [hdecode] at h
      cases h
    | some b =>
      rw [hdecode] at h
      obtain ⟨hchecksum, hpayload⟩ := Option.ite_none_right_eq_some.mp h
      cases hpayload
      rw [← hchecksum, List.take_append_drop]
  · intro h
    have hlength : (payload ++ checksum payload).length - 4 = payload.length := by
      rw [List.length_append, length_checksum, Nat.add_sub_cancel]
    rw [h]
    dsimp only
    rw [hlength, List.take_left, List.drop_left, if_pos rfl]

/-! ### Payloads -/

theorem keyOf_plain (hb : b.length = 32) : keyOf (version :: b) c = KeyPair.ofBytes b c := by
  have hmark : ¬ (b.length = 33 ∧ b.getLast? = some 1) := by omega
  unfold keyOf
  rw [List.length_cons, hb, if_neg (by decide)]
  dsimp only
  rw [if_neg (not_not.mpr rfl), if_neg hmark]

theorem keyOf_marked (hb : b.length = 32) :
    keyOf (version :: (b ++ [1])) c = KeyPair.ofBytes b c := by
  have hlength : (b ++ [1]).length = 33 := by rw [List.length_append, hb, List.length_singleton]
  have hlast : (b ++ [1]).getLast? = some 1 := List.getLast?_concat
  unfold keyOf
  rw [List.length_cons, hlength, if_neg (by decide)]
  dsimp only
  rw [if_neg (not_not.mpr rfl), if_pos ⟨hlength, hlast⟩, List.dropLast_concat]

/-- A payload is refused, or what follows the version byte is taken for a secret, or for a secret
with the byte 1 behind it. -/
theorem keyOf_cases (payload : Bytes) (c : Bool) :
    (∃ e, keyOf payload c = .error e ∧ e.IsKeyFault) ∨
      (∃ b, payload = version :: b ∧ keyOf payload c = KeyPair.ofBytes b c) ∨
      ∃ b, payload = version :: (b ++ [1]) ∧ keyOf payload c = KeyPair.ofBytes b c := by
  unfold keyOf
  split
  · exact .inl ⟨_, rfl, _, rfl, rfl⟩
  · rename_i hlength
    cases payload with
    | nil => exact absurd (by decide) hlength
    | cons first b =>
      dsimp only
      split
      · exact .inl ⟨_, rfl, _, rfl, rfl⟩
      · rename_i hversion
        obtain rfl := not_not.mp hversion
        -- 33 bytes without the byte 1 at their end are refused as a secret that is too long
        split
        · rename_i hmark
          have hb : b.dropLast ++ [1] = b := List.dropLast_append_getLast? 1 hmark.2
          exact .inr (.inr ⟨b.dropLast, by rw [hb], rfl⟩)
        · exact .inr (.inl ⟨b, rfl, rfl⟩)

/-- The payload of a key pair is the version byte and the secret, and possibly the byte 1. -/
theorem keyOf_eq_ok_iff : keyOf payload c = .ok k ↔ k.compressed = c ∧
    (payload = version :: k.toBytes ∨ payload = version :: (k.toBytes ++ [1])) := by
  constructor
  · intro h
    rcases keyOf_cases payload c with ⟨e, herror, -⟩ | ⟨b, rfl, hb⟩ | ⟨b, rfl, hb⟩
    · rw [h] at herror
      cases herror
    · obtain ⟨hc, rfl⟩ := KeyPair.ofBytes_eq_ok_iff.mp (hb ▸ h)
      exact ⟨hc, .inl rfl⟩
    · obtain ⟨hc, rfl⟩ := KeyPair.ofBytes_eq_ok_iff.mp (hb ▸ h)
      exact ⟨hc, .inr rfl⟩
  · have hlength : k.toBytes.length = 32 := length_bigEndian 32 k.secret
    rintro ⟨hc, rfl | rfl⟩
    · rw [keyOf_plain hlength]
      exact KeyPair.ofBytes_eq_ok_iff.mpr ⟨hc, rfl⟩
    · rw [keyOf_marked hlength]
      exact KeyPair.ofBytes_eq_ok_iff.mpr ⟨hc, rfl⟩

theorem isKeyFault_of_keyOf (h : keyOf payload c = .error e) : e.IsKeyFault := by
  rcases keyOf_cases payload c with ⟨e', herror, he⟩ | ⟨b, -, hb⟩ | ⟨b, -, hb⟩
  · rw [h] at herror
    cases herror
    exact he
  · exact KeyPair.isKeyFault_of_ofBytes (hb ▸ h)
  · exact KeyPair.isKeyFault_of_ofBytes (hb ▸ h)

/-! ### Texts -/

theorem keyOfText_eq_ok_iff : keyOfText t c = .ok k ↔
    k.compressed = c ∧ (IsForm t k.secret [] ∨ IsForm t k.secret [1]) := by
  have hplain : IsForm t k.secret [] ↔ read? t = some (version :: k.toBytes) := by
    rw [read?_eq_some_iff, IsForm, List.append_nil]
    rfl
  have hmarked : IsForm t k.secret [1] ↔ read? t = some (version :: (k.toBytes ++ [1])) :=
    read?_eq_some_iff.symm
  rw [hplain, hmarked]
  unfold keyOfText
  cases hread : read? t with
  | none => simp
  | some payload =>
    dsimp only
    rw [keyOf_eq_ok_iff, Option.some_inj, Option.some_inj]

theorem isKeyFault_of_keyOfText (h : keyOfText t c = .error e) : e.IsKeyFault := by
  unfold keyOfText at h
  split at h
  · exact isKeyFault_of_keyOf h
  · cases h
    exact ⟨_, rfl, rfl⟩

/-- A text is not both with and without the byte 1. -/
theorem IsForm.not_marked {m n : Nat} (h : IsForm t m []) : ¬ IsForm t n [1] := by
  intro hmarked
  have hdecode := Base58.decode?_eq_some_iff.mpr h
  rw [Base58.decode?_eq_some_iff.mpr hmarked, Option.some_inj] at hdecode
  have hlength := congrArg List.length hdecode
  simp [length_sha256] at hlength

/-- A wallet form is ASCII, and there are no blanks in it. -/
theorem IsForm.ascii_of_mem {n : Nat} {suffix : Bytes} (h : IsForm t n suffix) {x : CodePoint}
    (hx : x ∈ t) : x.val < 0x80 ∧ x.isBlank = false := by
  have hall : ∀ d < 58, (Base58.digit d).val < 0x80 ∧ (Base58.digit d).isBlank = false := by
    decide +kernel
  obtain ⟨d, hd, rfl⟩ := Base58.Represents.exists_digit h hx
  exact hall d hd

end Wallet

namespace KeyPair

variable {t : Text} {c : Bool} {k : KeyPair} {e : Failure}

theorem isForm_iff_toWallet : Wallet.IsForm t k.secret [] ↔ k.toWallet = t := by
  rw [toWallet, Wallet.write, Base58.encode_eq_iff, Wallet.IsForm, List.append_nil]
  rfl

theorem ofWallet_eq_ok_iff : ofWallet (.chars t) c = .ok k ↔ k.compressed = c ∧
    (Wallet.IsForm (t.trimEnd CodePoint.isBlank) k.secret [] ∨
      Wallet.IsForm (t.trimEnd CodePoint.isBlank) k.secret [1]) := by
  rw [← Wallet.keyOfText_eq_ok_iff]
  unfold ofWallet
  dsimp only
  split
  · rfl
  · rename_i hascii
    constructor
    · intro h
      cases h
    · intro h
      apply absurd _ hascii
      rw [List.all_eq_true]
      intro x hx
      apply decide_eq_true
      rcases (Wallet.keyOfText_eq_ok_iff.mp h).2 with hform | hform
      · exact (hform.ascii_of_mem hx).1
      · exact (hform.ascii_of_mem hx).1

theorem isKeyFault_of_ofWallet (h : ofWallet (.chars t) c = .error e) : e.IsKeyFault := by
  unfold ofWallet at h
  dsimp only at h
  split at h
  · exact Wallet.isKeyFault_of_keyOfText h
  · cases h
    exact ⟨_, rfl, rfl⟩

/-- The wallet form of a key pair ends in no blank. -/
theorem trimEnd_toWallet (k : KeyPair) : k.toWallet.trimEnd CodePoint.isBlank = k.toWallet := by
  apply Text.trimEnd_eq_self
  intro x hx
  exact ((isForm_iff_toWallet.mpr rfl).ascii_of_mem (List.mem_of_getLast? hx)).2

/-- A text is read as a key pair if and only if it is, without blanks at its end, a wallet form of
the secret with or without the byte 1; every other text is refused as bad key material.  The text is
written again for the key pair if and only if it is without the byte 1, and every key pair is read
back from what is written for it. -/
theorem ofWallet_toWallet :
    (∀ t c, (∀ k, ofWallet (.chars t) c = .ok k ↔ k.compressed = c ∧
        (Wallet.IsForm (t.trimEnd CodePoint.isBlank) k.secret [] ∨
          Wallet.IsForm (t.trimEnd CodePoint.isBlank) k.secret [1])) ∧
      (∀ e, ofWallet (.chars t) c = .error e → e.IsKeyFault) ∧
      ∀ k, ofWallet (.chars t) c = .ok k →
        (k.toWallet = t.trimEnd CodePoint.isBlank ↔
          ¬ Wallet.IsForm (t.trimEnd CodePoint.isBlank) k.secret [1])) ∧
    ∀ k : KeyPair, ofWallet (.chars k.toWallet) k.compressed = .ok k := by
  refine ⟨?_, ?_⟩
  · intro t c
    refine ⟨fun k ↦ ofWallet_eq_ok_iff, fun e ↦ isKeyFault_of_ofWallet, ?_⟩
    intro k hk
    rw [← isForm_iff_toWallet]
    constructor
    · intro hform
      exact hform.not_marked
    · intro hmarked
      exact (ofWallet_eq_ok_iff.mp hk).2.resolve_right hmarked
  · intro k
    rw [ofWallet_eq_ok_iff, trimEnd_toWallet]
    exact ⟨rfl, .inl (isForm_iff_toWallet.mpr rfl)⟩

/-- A secret in both of its wallet forms, and a text whose last digit is wrong. -/
theorem ofWallet_toWallet_known :
    let k : KeyPair := ⟨0x0c28fca386c7a227600b2fe50b7cae11ec86d3bf1fbe471be89827e19d72aa1d, true,
      by decide, by decide⟩
    k.toWallet = lit "5HueCGU8rMjxEXxiPuD5BDku4MkFqeZyd4dZ1jvhTVqvbTLvyTJ" ∧
      ofWallet (.chars (lit "5HueCGU8rMjxEXxiPuD5BDku4MkFqeZyd4dZ1jvhTVqvbTLvyTJ ")) true = .ok k ∧
      ofWallet (.chars (lit "KwdMAjGmerYanjeui5SHS7JkmpZvVipYvB2LJGU1ZxJwYvP98617")) true = .ok k ∧
      ∃ e, ofWallet (.chars (lit "5HueCGU8rMjxEXxiPuD5BDku4MkFqeZyd4dZ1jvhTVqvbTLvyTK")) true
        = .error e ∧ e.IsKeyFault := by
  intro k
  have hplain : k.toWallet = lit "5HueCGU8rMjxEXxiPuD5BDku4MkFqeZyd4dZ1jvhTVqvbTLvyTJ" := by
    decide +kernel
  have hmarked : Wallet.IsForm (lit "KwdMAjGmerYanjeui5SHS7JkmpZvVipYvB2LJGU1ZxJwYvP98617")
      k.secret [1] := Base58.encode_eq_iff.mp (by decide +kernel)
  have hnone : (ofWallet (.chars (lit "5HueCGU8rMjxEXxiPuD5BDku4MkFqeZyd4dZ1jvhTVqvbTLvyTK"))
      true).toOption = none := by decide +kernel
  obtain ⟨e, he⟩ := exists_error_of_toOption hnone
  have hread := ofWallet_toWallet.1
  refine ⟨hplain, ?_, ?_, ?_⟩
  · exact ((hread _ true).1 k).mpr ⟨rfl, .inl (isForm_iff_toWallet.mpr (hplain.trans rfl))⟩
  · exact ((hread _ true).1 k).mpr ⟨rfl, .inr hmarked⟩
  · exact ⟨e, he, (hread _ true).2.1 e he⟩

end KeyPair

end GrapheneSigner
