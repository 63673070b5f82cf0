import Mathlib.Data.Finset.Image
import Mathlib.Data.List.Forall2
import GrapheneSigner.Proofs.Signing.Discovery
import GrapheneSigner.Proofs.Signing.Pass
import GrapheneSigner.Proofs.Signing.Recoverable
import GrapheneSigner.Proofs.Transaction.Decoding

/-!
# Signing respects the wire form

Transactions with the same wire form need the same authorities, which may be named in another order
or more than once.  Hence they are signed with the same keys in some order, and since the order does
not matter for the question whether all signatures are canonical, the searches on them end at the
same expiration.
-/

namespace GrapheneSigner

/-! ## Who signs an operation -/

/-- The authorities that sign a checked operation. -/
def Operation.signers : Operation → List (Role × AccountName)
  | vote v => [(.posting, v.voter)]
  | transfer t => [(.active, t.sender)]
  | witnessVote w => [(.active, w.account)]
  | customJson c =>
    c.requiredAuths.map (Prod.mk .active) ++ c.requiredPostingAuths.map (Prod.mk .posting)

/-- The authorities that sign an operation, as they can be read off its wire form. -/
def NormalOperation.signers : NormalOperation → Finset (Role × AccountName)
  | vote v => {(.posting, v.voter)}
  | transfer t => {(.active, t.sender)}
  | witnessVote w => {(.active, w.account)}
  | customJson auths postingAuths _ _ =>
    auths.image (Prod.mk .active) ∪ postingAuths.image (Prod.mk .posting)

theorem Operation.mem_signers_iff {o : Operation} {l : Role × AccountName} :
    l ∈ o.signers ↔ l ∈ o.normal.signers := by
  cases o with
  | vote v => simp [signers, normal, NormalOperation.signers]
  | transfer t => simp [signers, normal, NormalOperation.signers]
  | witnessVote w => simp [signers, normal, NormalOperation.signers]
  | customJson c => simp [signers, normal, NormalOperation.signers]

namespace Resolver

theorem accounts?_map (auths : List AccountName) :
    Value.accounts? (auths.map Value.account) = some auths := by
  induction auths with
  | nil => rfl
  | cons a rest ih =>
    rw [List.map_cons, Value.accounts?, ih]
    rfl

theorem placesOf_list (title : Text) (role : Role) (field : Text) (auths : List AccountName) :
    placesOf title ⟨role, field, .list (auths.map .account)⟩ = auths.map (.account title role) := by
  unfold placesOf Requirement.accounts?
  dsimp only
  rw [accounts?_map]

/-- The places of a checked operation are the authorities that sign it. -/
theorem placesIn_toEntry (o : Operation) :
    placesIn o.toEntry = o.signers.map fun l ↦ .account o.toDraft.kind.title l.1 l.2 := by
  cases o with
  | vote v => rfl
  | transfer t => rfl
  | witnessVote w => rfl
  | customJson c =>
    have hplaces : placesIn (Operation.customJson c).toEntry
        = placesOf OperationKind.customJson.title
            ⟨.active, lit "required_auths", .list (c.requiredAuths.map .account)⟩
          ++ (placesOf OperationKind.customJson.title
            ⟨.posting, lit "required_posting_auths", .list (c.requiredPostingAuths.map .account)⟩
          ++ []) := rfl
    rw [hplaces, placesOf_list, placesOf_list, List.append_nil, Operation.signers, List.map_append,
      List.map_map, List.map_map]
    rfl

/-- The keys of checked operations are the keys of all authorities that sign them, each once. -/
theorem mem_of_resolve {store : KeyStore} {os : List Operation} {keys : List KeyPair}
    (h : (resolve KeyStore.lookup (os.map Operation.toEntry) store).1 = .ok keys) :
    keys.Nodup ∧ ∀ k, k ∈ keys ↔
      ∃ o ∈ os, ∃ l ∈ o.signers, store.resolve l.1 l.2 = .ok k := by
  have hkeys := (answers_keyStore store).eq_of_resolve rfl h
  refine ⟨hkeys ▸ nodup_eraseDups _, ?_⟩
  intro k
  rw [hkeys, List.mem_eraseDups, mem_found_iff]
  unfold places
  simp only [List.mem_flatMap, List.mem_map, exists_exists_and_eq_and, placesIn_toEntry]
  constructor
  · rintro ⟨title, role, a, ⟨o, ho, l, hl, heq⟩, hanswer⟩
    cases heq
    exact ⟨o, ho, l, hl, hanswer⟩
  · rintro ⟨o, ho, l, hl, hanswer⟩
    exact ⟨_, l.1, l.2, ⟨o, ho, l, hl, rfl⟩, hanswer⟩

/-- Operations that are written alike are signed with the same keys, in some order. -/
theorem perm_of_resolve {store : KeyStore} {os os' : List Operation} {keys keys' : List KeyPair}
    (hnormal : os.map Operation.normal = os'.map Operation.normal)
    (h : (resolve KeyStore.lookup (os.map Operation.toEntry) store).1 = .ok keys)
    (h' : (resolve KeyStore.lookup (os'.map Operation.toEntry) store).1 = .ok keys') :
    keys.Perm keys' := by
  obtain ⟨hnodup, hmem⟩ := mem_of_resolve h
  obtain ⟨hnodup', hmem'⟩ := mem_of_resolve h'
  have hread : ∀ (os : List Operation) (k : KeyPair),
      (∃ o ∈ os, ∃ l ∈ o.signers, store.resolve l.1 l.2 = .ok k) ↔
        ∃ n ∈ os.map Operation.normal, ∃ l ∈ n.signers, store.resolve l.1 l.2 = .ok k := by
    intro os k
    simp only [List.mem_map, exists_exists_and_eq_and, Operation.mem_signers_iff]
  rw [List.perm_ext_iff_of_nodup hnodup hnodup']
  intro k
  rw [hmem, hmem', hread, hread, hnormal]

end Resolver

namespace Transaction

/-! ## The order of the keys -/

/-- Keys in another order make the same signatures in another order. -/
theorem perm_of_signAll {digest : Bytes} {keys keys' : List KeyPair} (hperm : keys.Perm keys')
    {signatures : List Bytes} {found : Option (List Bytes)}
    (h : signAll digest keys = .ok (some signatures)) (h' : signAll digest keys' = .ok found) :
    ∃ signatures', found = some signatures' ∧ signatures.Perm signatures' := by
  have hmap : ∀ {keys : List KeyPair} {signatures : List Bytes},
      signAll digest keys = .ok (some signatures) →
      signatures = keys.map fun k ↦ (k.signCompact digest).toOption.getD [] := by
    intro keys signatures h
    rw [eq_comm, ← List.forall₂_eq_eq_eq, List.forall₂_map_left_iff]
    refine (forall₂_of_signAll h).imp ?_
    rintro k b ⟨hsign, _⟩
    rw [hsign]
    rfl
  cases found with
  | some signatures' =>
    refine ⟨signatures', rfl, ?_⟩
    rw [hmap h, hmap h']
    exact hperm.map _
  | none =>
    -- a key that is rejected is among the keys whose signatures are canonical
    obtain ⟨k, hk, b, hsign, hrejected⟩ := rejected_of_signAll h'
    obtain ⟨i, hi, rfl⟩ := List.mem_iff_getElem.mp (hperm.mem_iff.mpr hk)
    have hforall := forall₂_of_signAll h
    obtain ⟨hsign', hcanonical⟩ := hforall.get hi (hforall.length_eq ▸ hi)
    rw [List.get_eq_getElem, hsign] at hsign'
    cases hsign'
    rw [hrejected] at hcanonical
    cases hcanonical

/-! ## Transactions that are written alike -/

theorem encode_eq_map (t : Transaction) (chain : Bytes) :
    t.encode chain = (t.encode []).map (chain ++ ·) := by
  unfold encode
  cases t.header.encode with
  | error failure => rfl
  | ok header =>
    cases encodeOperations 0 t.operations with
    | error failure => rfl
    | ok operations =>
      cases t.trailer.encode with
      | error failure => rfl
      | ok trailer =>
        cases t.spoilt? with
        | some failure => rfl
        | none =>
          simp only [bind, Except.bind, pure, Except.pure, Except.map, List.append_assoc,
            List.nil_append]

theorem Lists.expiring {t : Transaction} {os : List Operation} {es : List Extension}
    (h : t.Lists os es) (e : TimePoint) : (t.expiring e).Lists os es :=
  ⟨h.operations, h.extensions⟩

section

variable {t t' : Transaction} {os os' : List Operation} {es es' : List Extension}
  (h : t.Lists os es) (h' : t'.Lists os' es') (hform : t.normalForm os = t'.normalForm os')

include h h' hform

/-- With the same expiration, transactions with the same normal form are written alike. -/
theorem encode_expiring_eq {e : TimePoint} {chain b b' : Bytes}
    (hb : (t.expiring e).encode chain = .ok b) (hb' : (t'.expiring e).encode chain = .ok b') :
    b = b' := by
  have hexpiring : (t.expiring e).normalForm os = (t'.expiring e).normalForm os' :=
    congrArg (fun n : NormalForm ↦ { n with expiration := e.seconds }) hform
  exact (h.expiring e).encode_eq (h'.expiring e) hexpiring hb hb'

/-- The same attempt on both gives the same signatures in some order. -/
theorem perm_of_attemptFrom {chain : Bytes} {keys keys' : List KeyPair} (hperm : keys.Perm keys')
    {start i : Nat} {signatures : List Bytes} {found : Option (List Bytes)}
    (hattempt : t.attemptFrom chain keys start i = .ok (some signatures))
    (hattempt' : t'.attemptFrom chain keys' start i = .ok found) :
    ∃ signatures', found = some signatures' ∧ signatures.Perm signatures' := by
  obtain ⟨digest, hdigest, hall⟩ := exists_of_bind_eq_ok hattempt
  obtain ⟨digest', hdigest', hall'⟩ := exists_of_bind_eq_ok hattempt'
  obtain ⟨b, hb, hsha⟩ := exists_of_bind_eq_ok hdigest
  obtain ⟨b', hb', hsha'⟩ := exists_of_bind_eq_ok hdigest'
  cases hsha
  cases hsha'
  rw [← encode_expiring_eq h h' hform hb hb'] at hall'
  exact perm_of_signAll hperm hall hall'

/-- A search on the one does not go on behind the end of a search on the other. -/
theorem Run.le_of_perm {chain : Bytes} {keys keys' : List KeyPair} (hperm : keys.Perm keys')
    {attempts start bound n n' : Nat} {left left' : Transaction}
    {signatures signatures' : List Bytes}
    (hrun : Run t chain keys attempts start bound n left (.ok signatures))
    (hrun' : Run t' chain keys' attempts start bound n' left' (.ok signatures')) : n' ≤ n := by
  by_contra hlt
  obtain ⟨_, hfound, _⟩ := perm_of_attemptFrom h h' hform hperm hrun.signed.2
    (hrun'.rejected n (Nat.lt_of_not_le hlt))
  cases hfound

end

/-- The start of the search depends on the expiration. -/
theorem StartsAt.eq {t t' : Transaction} {config : Config} {start start' : Nat}
    (h : t.StartsAt config start) (h' : t'.StartsAt config start')
    (hexpiration : t.expiration = t'.expiration) : start = start' := by
  cases hset : t.expiration.isSet with
  | true => rw [h.1 hset, h'.1 (hexpiration ▸ hset), hexpiration]
  | false =>
    obtain ⟨now, hnow, _, hstart⟩ := h.2 hset
    obtain ⟨now', hnow', _, hstart'⟩ := h'.2 (hexpiration ▸ hset)
    rw [hnow] at hnow'
    cases hnow'
    omega

/-- A transaction of which an attempt gives signatures has a wire form. -/
theorem exists_encode_of_attemptFrom {t : Transaction} {chain : Bytes} {keys : List KeyPair}
    {start i : Nat} {found : Option (List Bytes)}
    (h : t.attemptFrom chain keys start i = .ok found) :
    ∃ b, (t.expiring ⟨start + i⟩).encode [] = .ok b := by
  obtain ⟨digest, hdigest, _⟩ := exists_of_bind_eq_ok h
  obtain ⟨b, hb, _⟩ := exists_of_bind_eq_ok hdigest
  rw [encode_eq_map] at hb
  cases hown : (t.expiring ⟨start + i⟩).encode [] with
  | ok own => exact ⟨own, rfl⟩
  | error failure =>
    rw [hown] at hb
    cases hb

/-- What a run leaves is written as the transaction with the expiration that it reached. -/
theorem Run.encode_left {t left : Transaction} {chain : Bytes} {keys : List KeyPair}
    {attempts start bound n : Nat} {result : Except Failure (List Bytes)}
    (h : Run t chain keys attempts start bound n left result) (chain' : Bytes) :
    left.encode chain' = (t.expiring ⟨start + n⟩).encode chain' := by
  rw [← h.body.encode_expiring, ← h.expiration]
  rfl

end Transaction

namespace SignedTransaction

open Transaction

/-- Two transactions without signatures that list checked operations and have the same wire form may
differ in the order and the repetition of the accounts that sign documents.  If both can be signed
with the same store, settings and chain, they are left with the same expiration, the same wire form
and the same signatures in some order. -/
theorem sign_respects_wire {t t' : SignedTransaction} {os os' : List Operation}
    {es es' : List Extension} (h : t.Lists os es) (h' : t'.Lists os' es')
    (hsurplus : t.frame.NoSurplus) (hsurplus' : t'.frame.NoSurplus)
    (hunsigned : t.signatures = []) (hunsigned' : t'.signatures = []) {b : Bytes}
    (hb : t.toTransaction.serialize .null = .ok b) (hb' : t'.toTransaction.serialize .null = .ok b)
    (store : KeyStore) (config : Config) (chainId : Value) {texts texts' : List Text}
    (hsign : (t.sign KeyStore.lookup config chainId store).1.result = .ok texts)
    (hsign' : (t'.sign KeyStore.lookup config chainId store).1.result = .ok texts') :
    let left := (t.sign KeyStore.lookup config chainId store).1.left
    let left' := (t'.sign KeyStore.lookup config chainId store).1.left
    left.expiration = left'.expiration ∧
      (∃ c, left.toTransaction.serialize .null = .ok c ∧
        left'.toTransaction.serialize .null = .ok c) ∧
      left.signatures.Perm left'.signatures := by
  obtain ⟨keys, chain, start, n, signatures, hkeys, hchain, hstarts, hrun, rfl, hsignatures⟩ :=
    exists_run_of_sign hsurplus hsign
  obtain ⟨keys', chain', start', n', signatures', hkeys', hchain', hstarts', hrun', rfl,
    hsignatures'⟩ := exists_run_of_sign hsurplus' hsign'
  have hnull : ChainId.bytesOf .null = .ok [] := rfl
  have hform : t.normalForm os = t'.normalForm os' := by
    have hdecode := h.decode?_of_encode (encode_of_serialize hnull hb)
    have hdecode' := h'.decode?_of_encode (encode_of_serialize hnull hb')
    rw [hdecode, Option.some.injEq, Prod.mk.injEq] at hdecode'
    exact hdecode'.2
  have hexpiration : t.expiration = t'.expiration :=
    congrArg (fun n : NormalForm ↦ TimePoint.mk n.expiration) hform
  rw [h.operations] at hkeys
  rw [h'.operations] at hkeys'
  have hperm := Resolver.perm_of_resolve (congrArg NormalForm.operations hform) hkeys hkeys'
  rw [hchain] at hchain'
  cases hchain'
  have hstart := hstarts.eq hstarts' hexpiration
  subst hstart
  have hn : n = n' := Nat.le_antisymm (hrun'.le_of_perm h' h hform.symm hperm.symm hrun)
    (hrun.le_of_perm h h' hform hperm hrun')
  subst hn
  obtain ⟨_, hfound, hsame⟩ := perm_of_attemptFrom h h' hform hperm hrun.signed.2 hrun'.signed.2
  cases hfound
  obtain ⟨c, hc⟩ := exists_encode_of_attemptFrom hrun.signed.2
  obtain ⟨c', hc'⟩ := exists_encode_of_attemptFrom hrun'.signed.2
  refine ⟨?_, ⟨c, ?_, ?_⟩, ?_⟩
  · rw [hrun.expiration, hrun'.expiration]
  · exact (hrun.encode_left []).trans hc
  · rw [encode_expiring_eq h h' hform hc hc']
    exact (hrun'.encode_left []).trans hc'
  · rw [hsignatures, hsignatures', hunsigned, hunsigned', List.nil_append, List.nil_append]
    exact (hsame.map _).map _

/-! ### A document that two accounts sign -/

section Document

open Secp256k1

theorem fault?_witness : AccountName.fault? (lit "bob") = none := by decide

/-- The other account that signs the document. -/
def witness : AccountName := ⟨lit "bob", fault?_witness⟩

def witnessKey : KeyPair := ⟨2, true, by decide, by decide⟩

def witnessPoint : Candidate :=
  ⟨0xc6047f9441ed7d6d3045406e95c07cd85c778e4b8cef3ca7abac09b95c709ee5,
    0x1ae168fea63dc339a3c58419466ceaeef7f632653266d0e1236431a950cfe52a⟩

/-- The keys of both accounts. -/
def wallets : KeyStore := ⟨[(voter, [(.posting, voterKey)]), (witness, [(.posting, witnessKey)])]⟩

/-- The document, with the accounts that sign it in some order. -/
def signable (auths : List AccountName) : SignedTransaction :=
  { (document auths).toTransaction.expiring ⟨1451606405⟩ with signatures := [] }

def documentDigest : Bytes :=
  bigEndian 32 0x6664d4397c9c8b6ff86cd642c4a191b68a40b46bbf21afa11ffd86921bc153f9

/-- The signature of the document by the voter. -/
def documentParts : Signature :=
  ⟨0x5be766310dd8b399fcec4d1dac62e7e23c923a9774cd91d94ef42e581b0753fe,
    0x581b5d917d9ed796dee279c03d8283c601d0cad3275b78272f533030bfdb2768⟩

/-- The signature of the document by the other account. -/
def witnessParts : Signature :=
  ⟨0x0b762a7a6db16b93743d90fbad03ecbedce34fc54f8d1d6e900e85623120b79d,
    0x1e4524fc20107aace074eaa695df5a5b542e7890902fe13880260d83b90e3979⟩

/-- The signature of the voter in compact form. -/
def documentSignature : Bytes := 32 :: bigEndian 32 documentParts.r ++ bigEndian 32 documentParts.s

/-- The signature of the other account in compact form. -/
def witnessSignature : Bytes := 31 :: bigEndian 32 witnessParts.r ++ bigEndian 32 witnessParts.s

def documentCalculation : KeyPair.Calculation voterKey documentDigest where
  half := ⟨
    bigEndian 32 0xabed8ab88ffc04d13d8faea165c9b6c0693981fddbcd5c9e36303e8e9c9bb8a7,
    bigEndian 32 0x1c3224efa9e6cfe8a11db1899fe7e028fb4be03940efba761986532da968a532⟩
  seeded := ⟨
    bigEndian 32 0x5e209084463a697bae56d1c17bcb9b16088411f18f3c684096043e5817637bd5,
    bigEndian 32 0x650fffaa790071954cf8b7d5657874e4659c2e98eef9f81623ce81c0bb076362⟩
  nonce := 0xce23664f54b297fabe660b381283dfcce557ef9c1be16a6f7c24053dbb18881a
  signature := documentParts
  id := 1
  candidate := voterPoint
  public_eq := ofPoint?_voterKey

def witnessCalculation : KeyPair.Calculation witnessKey documentDigest where
  half := ⟨
    bigEndian 32 0xa8b681fdf040003d0b7748b8b5a4292e34a261a62f8b15187e74a967d30ad7c8,
    bigEndian 32 0xa878bf830adc871948259bb2500b92529b448eb7c1b9f19285d88003b9f20bba⟩
  seeded := ⟨
    bigEndian 32 0xc82f94dbc9895365f84d3db3e1617c20d5565277f2876677ceb5e47d01e3eee6,
    bigEndian 32 0x0e0bd21470149fa951f26690a83fd2b9d47229a1af223c6cc6ef237f599c0315⟩
  nonce := 0x81b3e565b11717f25aa1f130e4151f85e9b3d985d6ef861ba65802b3abf473a4
  signature := witnessParts
  id := 0
  candidate := witnessPoint

theorem lists_signable (auths : List AccountName) :
    (signable auths).Lists (document auths).operations (document auths).extensions :=
  ⟨rfl, rfl⟩

/-- What signing the document gives, if its keys have these signatures. -/
theorem sign_signable {auths : List AccountName} {keys : List KeyPair} {signatures : List Bytes}
    (hkeys : (Resolver.resolve KeyStore.lookup (signable auths).operations wallets).1 = .ok keys)
    (hdigest : (signable auths).toTransaction.digest zeroChain = .ok documentDigest)
    (hall : List.Forall₂ (fun k b ↦ k.SignsCanonically documentDigest b) keys signatures) :
    ((signable auths).sign KeyStore.lookup network .null wallets).1.result
      = .ok (signatures.map Bytes.hex) :=
  (sign_of_forall₂ rfl hkeys chainOf_network rfl rfl hdigest hall rfl).1

/-- A document is signed by two accounts, whatever their order and however often one is named. -/
theorem sign_respects_wire_document :
    let first := (signable [voter, witness]).sign KeyStore.lookup network .null wallets
    let second := (signable [witness, voter, witness]).sign KeyStore.lookup network .null wallets
    first.1.result = .ok ([documentSignature, witnessSignature].map Bytes.hex) ∧
      second.1.result = .ok ([witnessSignature, documentSignature].map Bytes.hex) ∧
      first.1.left.expiration = second.1.left.expiration ∧
      first.1.left.signatures.Perm second.1.left.signatures := by
  have hsome : ((signable [voter, witness]).toTransaction.serialize .null).toOption.isSome
      = true := rfl
  have hsame : ((signable [witness, voter, witness]).toTransaction.serialize .null).toOption
      = ((signable [voter, witness]).toTransaction.serialize .null).toOption := by
    decide +kernel
  obtain ⟨b, hb⟩ := Option.isSome_iff_exists.mp hsome
  have hserialize := eq_ok_of_toOption hb
  have hserialize' := eq_ok_of_toOption (hsame.trans hb)
  have hnull : ChainId.bytesOf .null = .ok [] := rfl
  have hdigest : (signable [voter, witness]).toTransaction.digest zeroChain = .ok documentDigest :=
    eq_ok_of_toOption (by decide +kernel)
  have hdigest' : (signable [witness, voter, witness]).toTransaction.digest zeroChain
      = .ok documentDigest := by
    rw [← hdigest]
    unfold digest
    rw [encode_eq_map, encode_of_serialize hnull hserialize', encode_eq_map,
      encode_of_serialize hnull hserialize]
  have hvoter : voterKey.SignsCanonically documentDigest documentSignature :=
    ⟨documentCalculation.signCompact (length_bigEndian _ _) (by decide) rfl, rfl⟩
  have hwitness : witnessKey.SignsCanonically documentDigest witnessSignature :=
    ⟨witnessCalculation.signCompact (length_bigEndian _ _) (by decide) rfl, rfl⟩
  have hkeys : (Resolver.resolve KeyStore.lookup (signable [voter, witness]).operations wallets).1
      = .ok [voterKey, witnessKey] := rfl
  have hkeys' : (Resolver.resolve KeyStore.lookup
      (signable [witness, voter, witness]).operations wallets).1 = .ok [witnessKey, voterKey] := rfl
  have hfirst := sign_signable hkeys hdigest (.cons hvoter (.cons hwitness .nil))
  have hsecond := sign_signable hkeys' hdigest' (.cons hwitness (.cons hvoter .nil))
  obtain ⟨hexpiration, _, hperm⟩ := sign_respects_wire (lists_signable [voter, witness])
    (lists_signable [witness, voter, witness]) Frame.noSurplus_intact Frame.noSurplus_intact rfl rfl
    hserialize hserialize' wallets network .null hfirst hsecond
  exact ⟨hfirst, hsecond, hexpiration, hperm⟩

end Document

end SignedTransaction

end GrapheneSigner
