import GrapheneSigner.Proofs.Network.ChainId
import GrapheneSigner.Proofs.Network.Config
import GrapheneSigner.Proofs.Signing.Pass

/-!
# The forms of a chain id

A chain id can be kept in the settings, given as a text in any letter case and with blanks between
its pairs, or given as bytes.  Signing depends on its bytes alone, and all forms have the same ones,
so that it does not matter in which form the chain id comes.
-/

namespace GrapheneSigner

namespace Transaction

theorem chainOf_null (config : Config) : chainOf config .null = .ok config.chainBytes :=
  ChainId.bytesOf_chars config.read_chainId

theorem chainOf_bytes (config : Config) (b : Bytes) : chainOf config (.bytes b) = .ok b :=
  ChainId.bytesOf_bytes b

theorem chainOf_chars (config : Config) {t : Text} {b : Bytes} (h : Hex.read t = .ok b) :
    chainOf config (.chars t) = .ok b :=
  ChainId.bytesOf_chars h

/-- A pass depends on the chain id only by its bytes. -/
theorem signPass_eq_of_chainOf {σ : Type} (t : Transaction) (lookup : Lookup σ) {config : Config}
    {chainId chainId' : Value} (h : chainOf config chainId = chainOf config chainId') (s : σ) :
    t.signPass lookup config chainId s = t.signPass lookup config chainId' s := by
  unfold signPass
  rw [h]

end Transaction

namespace SignedTransaction

open Transaction

/-- Signing depends on the chain id only by its bytes. -/
theorem sign_eq_of_chainOf {σ : Type} (t : SignedTransaction) (lookup : Lookup σ) {config : Config}
    {chainId chainId' : Value} (h : chainOf config chainId = chainOf config chainId') (s : σ) :
    t.sign lookup config chainId s = t.sign lookup config chainId' s := by
  unfold sign
  rw [signPass_eq_of_chainOf t.toTransaction lookup h]

/-- Settings accept a text as their chain id exactly if it is hexadecimal.  Then it is read as the
bytes of the chain id, and so is the form of it that the settings keep, and neither is refused.
Hence signing comes to the same outcome if the chain id is left to the settings, given as the text,
or given as bytes: it leaves the same transaction with the same signatures and warnings, or fails in
the same way, and it leaves the source of keys in the same state. -/
theorem sign_eq_of_chain_form (text : Text) (now : Except Foreign Value) :
    ((∃ config, Config.ofArguments [(lit "chain_id", .chars text)] now = .ok config) ↔
      Hex.IsForm text) ∧
    ∀ (args : Arguments) (config : Config), args.get? "chain_id" = some (.chars text) →
      Config.ofArguments args now = .ok config →
      Hex.read text = .ok config.chainBytes ∧
      Hex.read config.chainId = .ok config.chainBytes ∧
      ChainId.bytesOf (.chars config.chainId) = .ok config.chainBytes ∧
      ChainId.bytesOf (.chars text) = .ok config.chainBytes ∧
      ∀ {σ : Type} (t : SignedTransaction) (lookup : Lookup σ) (s : σ),
        t.sign lookup config (.chars text) s = t.sign lookup config .null s ∧
        t.sign lookup config (.bytes config.chainBytes) s = t.sign lookup config .null s := by
  refine ⟨Config.exists_ofArguments_iff, ?_⟩
  intro args config hargs hconfig
  have hread := Config.read_of_ofArguments hargs hconfig
  have hkept := config.read_chainId
  refine ⟨hread, hkept, ChainId.bytesOf_chars hkept, ChainId.bytesOf_chars hread, ?_⟩
  intro σ t lookup s
  have htext : chainOf config (.chars text) = chainOf config .null := by
    rw [chainOf_chars config hread, chainOf_null]
  have hbytes : chainOf config (.bytes config.chainBytes) = chainOf config .null := by
    rw [chainOf_bytes, chainOf_null]
  exact ⟨sign_eq_of_chainOf t lookup htext s, sign_eq_of_chainOf t lookup hbytes s⟩

/-- A chain id of two bytes in mixed letter case, with blanks before and between its pairs: the vote
is signed alike in all its forms. -/
theorem sign_eq_of_chain_form_vote :
    let text := lit " aB\n0f"
    ∃ config, Config.ofArguments [(lit "chain_id", .chars text)] network.now = .ok config ∧
      config.chainBytes = [0xAB, 0x0F] ∧
      ChainId.bytesOf (.chars config.chainId) = .ok [0xAB, 0x0F] ∧
      ChainId.bytesOf (.chars text) = .ok [0xAB, 0x0F] ∧
      vote.sign KeyStore.lookup config (.chars text) wallet
        = vote.sign KeyStore.lookup config .null wallet ∧
      vote.sign KeyStore.lookup config (.bytes [0xAB, 0x0F]) wallet
        = vote.sign KeyStore.lookup config .null wallet := by
  intro text
  obtain ⟨haccepted, hforms⟩ := sign_eq_of_chain_form text network.now
  obtain ⟨config, hconfig⟩ := haccepted.mpr (by decide)
  obtain ⟨hread, _, hkept, hgiven, hsign⟩ := hforms _ config rfl hconfig
  have hbytes : config.chainBytes = [0xAB, 0x0F] := by
    have htext : Hex.read text = .ok [0xAB, 0x0F] := rfl
    rw [htext, Except.ok.injEq] at hread
    exact hread.symm
  rw [hbytes] at hkept hgiven hsign
  obtain ⟨htext, hbytes'⟩ := hsign vote KeyStore.lookup wallet
  exact ⟨config, hconfig, hbytes, hkept, hgiven, htext, hbytes'⟩

end SignedTransaction

end GrapheneSigner
