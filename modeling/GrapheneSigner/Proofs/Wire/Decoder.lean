import GrapheneSigner.Proofs.Text.Utf8
import GrapheneSigner.Proofs.Wire.Integer
import GrapheneSigner.Proofs.Wire.Refusal

/-!
# Decoders

A decoder takes a value off the front of a byte string and leaves the rest.  It undoes a writing if
it takes exactly the bytes of the writing off, whatever follows them, so that decoders of the parts
of a wire form make up a decoder of the whole.  Writings agree if they have the same bytes whenever
both succeed; like decoders, this is put together from the parts.
-/

namespace GrapheneSigner

/-- What is written at a fixed width is an integer of the type, and its bytes are those of the
type. -/
theorem Call.exists_of_encode_fixed {w : WireInt} {v : Value} {field : Option Text} {b : Bytes}
    (h : (Call.fixed w v field).encode = .ok b) :
    ∃ i, v.integer? = some i ∧ w.least ≤ i ∧ i ≤ w.greatest ∧ b = w.encode i := by
  unfold Call.encode WireInt.encode? at h
  dsimp only at h
  cases hv : v.integer? with
  | none =>
    rw [hv] at h
    cases h
  | some i =>
    rw [hv, Option.bind_some] at h
    by_cases hfits : w.least ≤ i ∧ i ≤ w.greatest
    · rw [if_pos hfits] at h
      cases h
      exact ⟨i, rfl, hfits.1, hfits.2, rfl⟩
    · rw [if_neg hfits] at h
      cases h

/-- The bytes of a call by itself. -/
theorem Writing.encode_of_encode_singleton {call : Call} {b : Bytes}
    (h : Writing.encode [.ok call] = .ok b) : call.encode = .ok b := by
  cases hcall : call.encode with
  | error failure => simp [Writing.encode, hcall] at h
  | ok bytes =>
    simp only [Writing.encode, hcall, List.append_nil, Except.ok.injEq] at h
    rw [h]

/-- Takes a value off the front of a byte string. -/
abbrev Decoder (α : Type) := StateT Bytes Option α

namespace Decoder

variable {α β : Type}

/-- The next `n` bytes. -/
def bytes (n : Nat) : Decoder Bytes :=
  fun b ↦ if n ≤ b.length then some (b.take n, b.drop n) else none

def varint : Decoder Nat := Varint.decode?

def int (w : WireInt) : Decoder Int := do
  return w.decode (← bytes w.width)

/-- A text behind its length in bytes. -/
def chars : Decoder Text := do
  let n ← varint
  let b ← bytes n
  Text.ofUtf8? b

/-- As many values as asked for. -/
def many (d : Decoder α) : Nat → Decoder (List α)
  | 0 => return []
  | n + 1 => do
    let a ← d
    let rest ← many d n
    return a :: rest

/-- The decoder takes exactly these bytes off for a value, whatever follows. -/
def Reads (d : Decoder α) (b : Bytes) (a : α) : Prop := ∀ rest, d (b ++ rest) = some (a, rest)

theorem reads_pure (a : α) : Reads (pure a) [] a := by
  intro rest
  rfl

theorem reads_lift {x : Option α} {a : α} (h : x = some a) : Reads (x : Decoder α) [] a := by
  subst h
  intro rest
  rfl

theorem Reads.bind {d : Decoder α} {f : α → Decoder β} {b b' : Bytes} {a : α} {a' : β}
    (h : d.Reads b a) (h' : (f a).Reads b' a') : Reads (d >>= f) (b ++ b') a' := by
  intro rest
  have hbind : (d >>= f) (b ++ b' ++ rest)
      = (d (b ++ (b' ++ rest))).bind fun p ↦ f p.1 p.2 := by
    rw [List.append_assoc]
    rfl
  rw [hbind, h, Option.bind_some, h']

/-- A decoder of which nothing more is taken off than by its first step. -/
theorem Reads.bind_nil {d : Decoder α} {f : α → Decoder β} {b : Bytes} {a : α} {a' : β}
    (h : d.Reads b a) (h' : (f a).Reads [] a') : Reads (d >>= f) b a' := by
  rw [← b.append_nil]
  exact h.bind h'

theorem reads_bytes (b : Bytes) : Reads (bytes b.length) b b := by
  intro rest
  unfold bytes
  rw [if_pos (by rw [List.length_append]; omega), List.take_left, List.drop_left]

theorem reads_varint (n : Nat) : Reads varint (Varint.encode n) n :=
  Varint.decode?_encode_append n

/-! ## Decoders of writings -/

/-- The decoder takes exactly the bytes of a writing off for a value. -/
def Undoes (d : Decoder α) (x : Writing) (a : α) : Prop :=
  ∀ b, x.encode = .ok b → d.Reads b a

theorem undoes_pure (a : α) : Undoes (pure a) [] a := by
  intro b h
  cases h
  exact reads_pure a

theorem Undoes.bind {d : Decoder α} {f : α → Decoder β} {x y : Writing} {a : α} {a' : β}
    (h : d.Undoes x a) (h' : (f a).Undoes y a') : Undoes (d >>= f) (x ++ y) a' := by
  intro b hb
  obtain ⟨before, behind, hbefore, hbehind, rfl⟩ := Writing.exists_of_encode_append hb
  exact (h before hbefore).bind (h' behind hbehind)

/-- A decoder whose last step only looks at what was read. -/
theorem Undoes.bind_reads {d : Decoder α} {f : α → Decoder β} {x : Writing} {a : α} {a' : β}
    (h : d.Undoes x a) (h' : (f a).Reads [] a') : Undoes (d >>= f) x a' := by
  intro b hb
  apply Reads.bind_nil (h b hb)
  exact h'

/-- A writing that fails is undone by every decoder. -/
theorem undoes_error (d : Decoder α) (failure : Failure) (a : α) :
    Undoes d [.error failure] a := by
  intro b hb
  cases hb

theorem undoes_call {d : Decoder α} {call : Call} {a : α}
    (h : ∀ b, call.encode = .ok b → d.Reads b a) : Undoes d [.ok call] a := by
  intro b hb
  apply h
  exact Writing.encode_of_encode_singleton hb

theorem undoes_fixed (w : WireInt) {v : Value} {i : Int} (hv : v.integer? = some i)
    (field : Option Text) : Undoes (int w) [.ok (.fixed w v field)] i := by
  apply undoes_call
  intro b hb
  obtain ⟨i', hi', hlow, hhigh, rfl⟩ := Call.exists_of_encode_fixed hb
  rw [hv, Option.some.injEq] at hi'
  subst hi'
  have hreads := reads_bytes (w.encode i)
  rw [WireInt.length_encode] at hreads
  have hread : Reads (pure (w.decode (w.encode i))) [] i := by
    rw [WireInt.decode_encode hlow hhigh]
    exact reads_pure i
  exact hreads.bind_nil hread

/-- What is written at a fixed width is an integer, whatever value it comes from. -/
theorem undoes_fixed_getD (w : WireInt) (v : Value) (field : Option Text) :
    Undoes (int w) [.ok (.fixed w v field)] (v.integer?.getD 0) := by
  cases hv : v.integer? with
  | some i => exact undoes_fixed w hv field
  | none =>
    apply undoes_call
    intro b hb
    obtain ⟨i, hi, _⟩ := Call.exists_of_encode_fixed hb
    rw [hv] at hi
    cases hi

theorem undoes_varint (n : Nat) (field : Option Text) :
    Undoes varint [.ok (.varint (.int n) field)] n := by
  apply undoes_call
  intro b hb
  simp only [Call.encode, Value.integer?] at hb
  split at hb
  · cases hb
    exact reads_varint n
  · cases hb

theorem undoes_raw (b : Bytes) : Undoes (bytes b.length) [.ok (.raw (.bytes b))] b := by
  apply undoes_call
  intro b' hb'
  cases hb'
  exact reads_bytes b

theorem undoes_chars (t : Text) (field : Option Text) :
    Undoes chars [.ok (.chars (.chars t) field)] t := by
  apply undoes_call
  intro b hb
  unfold Call.encode at hb
  dsimp only at hb
  cases hutf8 : t.utf8? with
  | none =>
    rw [hutf8] at hb
    cases hb
  | some text =>
    rw [hutf8] at hb
    cases hb
    obtain ⟨hencodable, rfl⟩ := Text.utf8?_eq_some_iff.mp hutf8
    exact (reads_varint _).bind ((reads_bytes _).bind_nil
      (reads_lift (Text.ofUtf8?_utf8 hencodable)))

/-- Many values are taken off the writings of all of them. -/
theorem undoes_many {d : Decoder β} {write : α → Writing} {value : α → β} {as : List α}
    (h : ∀ a ∈ as, d.Undoes (write a) (value a)) :
    Undoes (d.many as.length) (as.flatMap write) (as.map value) := by
  induction as with
  | nil => exact undoes_pure []
  | cons a rest ih =>
    have hrest := ih fun a' ha' ↦ h a' (List.mem_cons_of_mem _ ha')
    rw [List.flatMap_cons]
    exact (h a List.mem_cons_self).bind (hrest.bind_reads (reads_pure _))

end Decoder

namespace Writing

/-! ## Writings that agree -/

/-- Two writings have the same bytes whenever both succeed. -/
def Agrees (x y : Writing) : Prop := ∀ b b', x.encode = .ok b → y.encode = .ok b' → b = b'

theorem Agrees.refl (x : Writing) : x.Agrees x := by
  intro b b' hb hb'
  rw [hb] at hb'
  cases hb'
  rfl

theorem Agrees.append {x x' y y' : Writing} (h : x.Agrees x') (h' : y.Agrees y') :
    (x ++ y).Agrees (x' ++ y') := by
  intro b b' hb hb'
  obtain ⟨before, behind, hbefore, hbehind, rfl⟩ := exists_of_encode_append hb
  obtain ⟨before', behind', hbefore', hbehind', rfl⟩ := exists_of_encode_append hb'
  rw [h before before' hbefore hbefore', h' behind behind' hbehind hbehind']

/-- Values that are the same integer are written alike at a fixed width. -/
theorem agrees_fixed (w : WireInt) {v v' : Value} (h : v.integer?.getD 0 = v'.integer?.getD 0)
    (field : Option Text) : Agrees [.ok (.fixed w v field)] [.ok (.fixed w v' field)] := by
  intro b b' hb hb'
  obtain ⟨i, hi, _, _, rfl⟩ := Call.exists_of_encode_fixed (encode_of_encode_singleton hb)
  obtain ⟨i', hi', _, _, rfl⟩ := Call.exists_of_encode_fixed (encode_of_encode_singleton hb')
  rw [hi, hi', Option.getD_some, Option.getD_some] at h
  rw [h]

end Writing

end GrapheneSigner
