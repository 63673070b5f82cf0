import GrapheneSigner.Proofs.Operation.Refusal
import GrapheneSigner.Transaction.Basic

/-!
# Failures of the digest

The digest of a transaction fails as its wire form is refused, unless an operation outside of the
catalogue brings a failure of its own.  If a transaction has a digest, then only an expiration that
has no four bytes can take it away.
-/

namespace GrapheneSigner

namespace Transaction

/-! ## What goes wrong -/

/-- The failure of an operation is its own one, or an encoding fault about it. -/
theorem operationFailure_eq_or_isRefusal (i : Nat) (e : Entry) (failure : Failure) :
    operationFailure i e failure = failure ∨ (operationFailure i e failure).IsRefusal := by
  cases failure with
  | foreign cause => exact .inl rfl
  | own fault =>
    unfold operationFailure
    dsimp only
    split
    · cases htitle : e.title with
      | ok title => exact .inr rfl
      | error failure =>
        obtain ⟨cause, rfl⟩ := Entry.foreign_of_title htitle
        exact .inr trivial
    · exact .inl rfl

/-- Some operation outside of the catalogue fails by itself when it is written. -/
def Raises (es : List Entry) (failure : Failure) : Prop :=
  ∃ o frame, .described o frame ∈ es ∧ .error failure ∈ (Entry.described o frame).writing

theorem Raises.cons {es : List Entry} {failure : Failure} (e : Entry) (h : Raises es failure) :
    Raises (e :: es) failure := by
  obtain ⟨o, frame, hmem, hfailure⟩ := h
  exact ⟨o, frame, List.mem_cons_of_mem _ hmem, hfailure⟩

theorem isRefusal_of_encodeOperations {i : Nat} {es : List Entry} {failure : Failure}
    (h : encodeOperations i es = .error failure) : failure.IsRefusal ∨ Raises es failure := by
  induction es generalizing i with
  | nil => cases h
  | cons e rest ih =>
    unfold encodeOperations at h
    cases hwriting : e.writing.encode with
    | error failure' =>
      simp only [hwriting, Except.error.injEq] at h
      rcases operationFailure_eq_or_isRefusal i e failure' with hsame | hrefusal
      · rw [hsame] at h
        subst h
        rcases Writing.mem_or_isRefusal_of_encode hwriting with hmem | hrefusal
        · by_cases hcatalogue : ∀ o frame, e ≠ .described o frame
          · exact .inl (e.onlyRefuses_writing hcatalogue _ hmem)
          · simp only [ne_eq, Classical.not_forall, Classical.not_not] at hcatalogue
            obtain ⟨o, frame, rfl⟩ := hcatalogue
            exact .inr ⟨o, frame, List.mem_cons_self, hmem⟩
        · exact .inl hrefusal
      · rw [h] at hrefusal
        exact .inl hrefusal
    | ok bytes =>
      cases hrest : encodeOperations (i + 1) rest with
      | ok more => simp [hwriting, hrest] at h
      | error failure' =>
        simp only [hwriting, hrest, Except.error.injEq] at h
        subst h
        exact (ih hrest).imp_right (Raises.cons e)

theorem isRefusal_of_header {t : Transaction} {failure : Failure}
    (h : t.header.encode = .error failure) : failure.IsRefusal := by
  rcases Writing.mem_or_isRefusal_of_encode h with hmem | hrefusal
  · -- only the call of the prefix can fail before it is made
    have hblock : prefixCall t.refBlockPrefix = .error failure := by
      simpa [header, eq_comm] using hmem
    unfold prefixCall at hblock
    dsimp only at hblock
    split at hblock
    · cases hblock
    · cases hblock
      rfl
  · exact hrefusal

theorem isRefusal_of_trailer {t : Transaction} {failure : Failure}
    (h : t.trailer.encode = .error failure) : failure.IsRefusal := by
  rcases Writing.mem_or_isRefusal_of_encode h with hmem | hrefusal
  · unfold trailer at hmem
    rcases List.mem_cons.mp hmem with hcount | hextension
    · unfold extensionsCall at hcount
      split at hcount
      · cases hcount
      · cases hcount
        trivial
    · obtain ⟨v, _, hv⟩ := List.mem_flatMap.mp hextension
      exact v.onlyRefuses_writing _ failure hv
  · exact hrefusal

/-- A digest fails as the wire form is refused, or with a failure of an operation's own. -/
theorem isRefusal_of_digest {t : Transaction} {chain : Bytes} {failure : Failure}
    (h : t.digest chain = .error failure) :
    failure.IsRefusal ∨ Raises t.operations failure := by
  rcases of_bind_eq_error h with hencode | ⟨bytes, _, hbytes⟩
  · rcases of_bind_eq_error hencode with hheader | ⟨header, _, hencode⟩
    · exact .inl (isRefusal_of_header hheader)
    rcases of_bind_eq_error hencode with hoperations | ⟨operations, _, hencode⟩
    · exact isRefusal_of_encodeOperations hoperations
    rcases of_bind_eq_error hencode with htrailer | ⟨trailer, _, hencode⟩
    · exact .inl (isRefusal_of_trailer htrailer)
    cases hspoilt : t.spoilt? with
    | none =>
      rw [hspoilt] at hencode
      cases hencode
    | some failure' =>
      rw [hspoilt] at hencode
      cases hencode
      obtain ⟨e, _, he⟩ := List.exists_of_findSome?_eq_some hspoilt
      exact .inl (Writing.isRefusal_of_spoilt? he)
  · cases hbytes

/-! ## What the expiration does -/

/-- The call of an expiration. -/
def expirationCall (e : TimePoint) : Call :=
  .fixed .u32 (.int e.seconds) (some (lit "expiration"))

/-- The refusal of an expiration that has no four bytes. -/
def expirationMisfit (e : TimePoint) : Failure :=
  Call.misfit .u32 (.int e.seconds) (some (lit "expiration")) .unpackable

theorem isRefusal_expirationMisfit (e : TimePoint) : (expirationMisfit e).IsRefusal :=
  Call.isRefusal_misfit ..

theorem encode_expirationCall (e : TimePoint) :
    (expirationCall e).encode
      = if e.seconds < byteRange 4 then .ok (WireInt.u32.encode e.seconds)
        else .error (expirationMisfit e) := by
  have hfits : WireInt.u32.least ≤ (e.seconds : Int) ∧ (e.seconds : Int) ≤ WireInt.u32.greatest ↔
      e.seconds < byteRange 4 := by
    rw [show WireInt.u32.least = 0 from rfl,
      show WireInt.u32.greatest = (byteRange 4 : Int) - 1 from rfl]
    omega
  unfold expirationCall Call.encode
  dsimp only [Value.integer?, Option.bind_some]
  unfold WireInt.encode?
  by_cases h : e.seconds < byteRange 4
  · rw [if_pos (hfits.mpr h), if_pos h]
  · rw [if_neg (fun hlt ↦ h (hfits.mp hlt)), if_neg h]
    rfl

theorem header_expiring (t : Transaction) (e : TimePoint) :
    (t.expiring e).header = t.header.take 2 ++ .ok (expirationCall e) :: t.header.drop 3 := rfl

def encodeBehind (t : Transaction) : Except Failure Bytes := do
  let operations ← encodeOperations 0 t.operations
  let trailer ← t.trailer.encode
  match t.spoilt? with
  | some failure => .error failure
  | none => return operations ++ trailer

theorem digest_eq (t : Transaction) (chain : Bytes) :
    t.digest chain = t.header.encode.bind fun header ↦
      t.encodeBehind.map fun behind ↦ sha256 (chain ++ header ++ behind) := by
  unfold digest encode encodeBehind
  cases t.header.encode with
  | error failure => rfl
  | ok header =>
    cases encodeOperations 0 t.operations with
    | error failure => rfl
    | ok operations =>
      cases t.trailer.encode with
      | error failure => rfl
      | ok trailer =>
        cases t.spoilt? with
        | some failure => rfl
        | none =>
          simp only [bind, Except.bind, pure, Except.pure, Except.map, List.append_assoc]

/-- What the expiration has to do with the digest. -/
theorem digest_expiring (t : Transaction) (e : TimePoint) (chain : Bytes) :
    (t.expiring e).digest chain =
      (Writing.encode (t.header.take 2)).bind fun first ↦
        (expirationCall e).encode.bind fun own ↦
          (Writing.encode (t.header.drop 3)).bind fun last ↦
            t.encodeBehind.map fun behind ↦
              sha256 (chain ++ (first ++ (own ++ last)) ++ behind) := by
  have hbehind : (t.expiring e).encodeBehind = t.encodeBehind := rfl
  rw [digest_eq, header_expiring, Writing.encode_append_cons, hbehind]
  generalize (expirationCall e).encode = own
  cases Writing.encode (t.header.take 2) with
  | error failure => simp only [Except.bind]
  | ok first =>
    cases own with
    | error failure => simp only [Except.bind]
    | ok own => cases Writing.encode (t.header.drop 3) <;> simp only [Except.bind, Except.map]

/-- If a transaction has a digest, then its expiration has four bytes. -/
theorem lt_of_digest_expiring {t : Transaction} {e : TimePoint} {chain d : Bytes}
    (h : (t.expiring e).digest chain = .ok d) : e.seconds < byteRange 4 := by
  rw [digest_expiring, encode_expirationCall] at h
  obtain ⟨first, _, h⟩ := exists_of_bind_eq_ok h
  obtain ⟨own, hown, _⟩ := exists_of_bind_eq_ok h
  by_cases hlt : e.seconds < byteRange 4
  · exact hlt
  · rw [if_neg hlt] at hown
    cases hown

/-- A digest is lost with another expiration only if that one has no four bytes. -/
theorem digest_expiring_error {t : Transaction} {e e' : TimePoint} {chain d : Bytes}
    {failure : Failure} (h : (t.expiring e).digest chain = .ok d)
    (hfailure : (t.expiring e').digest chain = .error failure) :
    byteRange 4 ≤ e'.seconds ∧ failure = expirationMisfit e' := by
  rw [digest_expiring] at h hfailure
  obtain ⟨first, hfirst, h⟩ := exists_of_bind_eq_ok h
  obtain ⟨own, _, h⟩ := exists_of_bind_eq_ok h
  obtain ⟨last, hlast, h⟩ := exists_of_bind_eq_ok h
  rw [hfirst, hlast, encode_expirationCall] at hfailure
  cases hbehind : t.encodeBehind with
  | error failure' =>
    rw [hbehind] at h
    cases h
  | ok behind =>
    by_cases hlt : e'.seconds < byteRange 4
    · rw [if_pos hlt, hbehind] at hfailure
      cases hfailure
    · rw [if_neg hlt] at hfailure
      cases hfailure
      exact ⟨Nat.le_of_not_lt hlt, rfl⟩

end Transaction

end GrapheneSigner
