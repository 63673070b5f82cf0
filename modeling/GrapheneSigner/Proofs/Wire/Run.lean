import Mathlib.Data.Int.ModEq
import Mathlib.Data.Nat.Digits.Lemmas
import GrapheneSigner.Proofs.Wire.Layout

/-!
# Runs of a writer

A writer is told to append one item after another, and goes on where a call is refused.  What the
calls stand for is said here without a writer: integers of fixed width stand for the bytes that have
their value in two's complement, counts for their digits to the base 128, and texts for the bytes
that the standard library gives to their characters, behind the number of these bytes.  A run is
settled if every call that can be written has succeeded with the bytes that it stands for, and every
other one has reported its field and left nothing.  There is one obstacle to such a report, which is
that it cannot show its value: an integer with too many digits, or an object without a notation.
-/

namespace GrapheneSigner

/-- The value is an integer; truth values count as one and zero. -/
inductive Value.IsInteger : Value → ℤ → Prop
  | int (i : ℤ) : IsInteger (.int i) i
  | no : IsInteger (.bool false) 0
  | yes : IsInteger (.bool true) 1

theorem Value.isInteger_iff {v : Value} {i : ℤ} : v.IsInteger i ↔ v.integer? = some i := by
  constructor
  · rintro ⟨i⟩ <;> rfl
  · intro h
    unfold integer? at h
    split at h
    · rename_i b
      cases b
      · cases h
        exact .no
      · cases h
        exact .yes
    · cases h
      exact .int i
    · cases h

def WireInt.Holds (w : WireInt) (i : ℤ) : Prop :=
  match w with
  | u8 => 0 ≤ i ∧ i < 2 ^ 8
  | u16 => 0 ≤ i ∧ i < 2 ^ 16
  | i16 => -2 ^ 15 ≤ i ∧ i < 2 ^ 15
  | u32 => 0 ≤ i ∧ i < 2 ^ 32
  | i64 => -2 ^ 63 ≤ i ∧ i < 2 ^ 63

theorem WireInt.holds_iff {w : WireInt} {i : ℤ} : w.Holds i ↔ w.least ≤ i ∧ i ≤ w.greatest := by
  have hhalf : byteRange 8 / 2 = 2 ^ 63 := by decide
  unfold Holds least greatest
  cases w
  all_goals
    dsimp only [signed, width]
    norm_num [byteRange]
    omega

/-- The bytes have as many members as the type says, and the value of the integer in two's
complement, the least byte first. -/
structure WireInt.IsForm (w : WireInt) (i : ℤ) (b : Bytes) : Prop where
  length : b.length = w.width
  value : (Nat.ofDigits 256 (b.map UInt8.toNat) : ℤ) ≡ i [ZMOD 256 ^ w.width]

/-- Bytes with the same value to the base 256 are the same. -/
theorem WireInt.IsForm.unique {b b' : Bytes} {w : WireInt} {i : ℤ} (h : w.IsForm i b)
    (h' : w.IsForm i b') : b = b' := by
  have hdigit : ∀ (c : Bytes), ∀ d ∈ c.map UInt8.toNat, d < 256 := by
    intro c d hd
    obtain ⟨x, -, rfl⟩ := List.mem_map.mp hd
    exact x.toNat_lt
  have hlt : ∀ (c : Bytes), w.IsForm i c →
      Nat.ofDigits 256 (c.map UInt8.toNat) < 256 ^ w.width := by
    intro c hc
    have hbound := Nat.ofDigits_lt_base_pow_length (by decide) (hdigit c)
    rwa [List.length_map, hc.length] at hbound
  have hmod : Nat.ofDigits 256 (b.map UInt8.toNat)
      ≡ Nat.ofDigits 256 (b'.map UInt8.toNat) [MOD 256 ^ w.width] := by
    apply (Int.natCast_modEq_iff).mp
    push_cast
    exact h.value.trans h'.value.symm
  have hvalue := hmod.eq_of_lt_of_lt (hlt b h) (hlt b' h')
  have hmap := Nat.ofDigits_inj_of_len_eq (by decide)
    (by rw [List.length_map, List.length_map, h.length, h'.length]) (hdigit b) (hdigit b') hvalue
  exact List.map_injective_iff.mpr (fun x y ↦ UInt8.toNat_inj.mp) hmap

theorem ofLittleEndian_eq_ofDigits (b : Bytes) :
    ofLittleEndian b = Nat.ofDigits 256 (b.map UInt8.toNat) := by
  induction b with
  | nil => rfl
  | cons x rest ih => rw [ofLittleEndian, List.map_cons, Nat.ofDigits_cons, ih]

theorem WireInt.isForm_encode (w : WireInt) (i : ℤ) : w.IsForm i (w.encode i) := by
  have hpos : (0 : ℤ) < byteRange w.width := Int.natCast_pos.mpr (byteRange_pos _)
  have hnonneg : 0 ≤ i % byteRange w.width := Int.emod_nonneg i hpos.ne'
  have hvalue : ((ofLittleEndian (w.encode i) : ℕ) : ℤ) = i % byteRange w.width := by
    rw [WireInt.encode, ofLittleEndian_littleEndian, Int.natCast_mod,
      show i.emod (byteRange w.width) = i % byteRange w.width from rfl,
      Int.toNat_of_nonneg hnonneg]
    exact Int.emod_emod_of_dvd i dvd_rfl
  have hrange : (256 : ℤ) ^ w.width = byteRange w.width := (Int.natCast_pow 256 w.width).symm
  rw [ofLittleEndian_eq_ofDigits] at hvalue
  push_cast at hvalue
  refine ⟨length_encode w i, ?_⟩
  rw [hvalue, hrange]
  exact Int.mod_modEq i _

namespace Call

/-! ## What calls stand for -/

/-- The name of the field that a refusal reports. -/
def field : Call → Option Text
  | fixed _ _ f => f
  | offered _ _ _ f => f
  | varint _ f => f
  | chars _ f => f
  | raw _ => none
  | counted _ f => f

/-- The bytes that the value of a call stands for. -/
inductive StandsFor : Call → Bytes → Prop
  | fixed {w v f i b} (hv : v.IsInteger i) (hi : w.Holds i) (hb : w.IsForm i b) :
      StandsFor (fixed w v f) b
  /-- An object stands for the integer that it offers. -/
  | offered {w o f i b} (hi : w.Holds i) (hb : w.IsForm i b) : StandsFor (offered w o (.ok i) f) b
  /-- A count has its digits to the base 128. -/
  | varint {v f} {n : ℕ} (hv : v.IsInteger n) (hn : n < 2 ^ 64) :
      StandsFor (varint v f) (Layout.count n)
  /-- A list of characters has their bytes, behind the number of these bytes. -/
  | chars {t f} {cs : List Char} (ht : t = cs.map CodePoint.ofChar) :
      StandsFor (chars (.chars t) f)
        (Layout.count (cs.flatMap String.utf8EncodeChar).length
          ++ cs.flatMap String.utf8EncodeChar)
  /-- A byte string stands for itself. -/
  | raw {b} : StandsFor (raw (.bytes b)) b
  /-- A byte string that is to be counted stands behind its length. -/
  | counted {b f} : StandsFor (counted (.bytes b) f) (Layout.count b.length ++ b)

/-- The value of a call is or offers an integer in the range of its type, is a text without
surrogates, or is a byte string. -/
def IsWritable : Call → Prop
  | fixed w v _ => ∃ i, v.IsInteger i ∧ w.Holds i
  | offered w _ offer _ => ∃ i, offer = .ok i ∧ w.Holds i
  | varint v _ => ∃ i, v.IsInteger i ∧ 0 ≤ i ∧ i < 2 ^ 64
  | chars v _ => ∃ t, v = .chars t ∧ ∀ c ∈ t, ¬ (0xD800 ≤ c.val ∧ c.val ≤ 0xDFFF)
  | raw v => ∃ b, v = .bytes b
  | counted v _ => ∃ b, v = .bytes b

/-- What keeps a refusal of a call from being an encoding fault. -/
inductive Hinders : Call → Foreign → Prop
  /-- The value cannot be shown. -/
  | fixed {w v f cause} (h : v.shown = .error cause) : Hinders (fixed w v f) cause
  | varint {v f cause} (h : v.shown = .error cause) : Hinders (varint v f) cause
  /-- The object cannot be shown, whether it offers an integer or the fault is that it does not. -/
  | offered {w o i f cause} (h : o.shown = .error cause) : Hinders (offered w o (.ok i) f) cause
  | mispacking {w o reason f cause} (hreason : isMispacking reason = true)
      (h : o.shown = .error cause) : Hinders (offered w o (.error reason) f) cause
  /-- The object fails for a reason of its own. -/
  | failing {w o cause f} (h : isMispacking cause = false) :
      Hinders (offered w o (.error cause) f) cause

/-- Where a call asks for bytes, it is given a byte string. -/
def GivesBytes : Call → Prop
  | raw v => ∃ b, v = .bytes b
  | counted v _ => ∃ b, v = .bytes b
  | _ => True

/-- A call stands for one byte string. -/
theorem StandsFor.unique {c : Call} {b b' : Bytes} (h : c.StandsFor b) (h' : c.StandsFor b') :
    b = b' := by
  cases h with
  | fixed hv _ hb =>
    cases h' with
    | fixed hv' _ hb' =>
      rw [Value.isInteger_iff] at hv hv'
      rw [hv, Option.some.injEq] at hv'
      subst hv'
      exact hb.unique hb'
  | offered _ hb =>
    cases h' with
    | offered _ hb' => exact hb.unique hb'
  | varint hv _ =>
    cases h' with
    | varint hv' _ =>
      rw [Value.isInteger_iff] at hv hv'
      rw [hv, Option.some.injEq, Nat.cast_inj] at hv'
      rw [hv']
  | chars ht =>
    cases h' with
    | chars ht' => rw [← Text.utf8_map_ofChar, ← Text.utf8_map_ofChar, ← ht, ← ht']
  | raw =>
    cases h'
    rfl
  | counted =>
    cases h'
    rfl

/-! ## What becomes of calls -/

/-- The result of a call: it writes what its value stands for, and if the value cannot be written,
it is refused with an encoding fault about its field, unless something hinders that. -/
inductive Yields (c : Call) : Except Failure Bytes → Prop
  | written {b} (h : c.IsWritable) (hb : c.StandsFor b) : Yields c (.ok b)
  | refused {fault : Fault} (h : ¬ c.IsWritable) (hfree : ∀ cause, ¬ c.Hinders cause)
      (kind : fault.report.kind = .encoding) (named : fault.report.field = c.field) :
      Yields c (.error (.own fault))
  | hindered {cause : Foreign} (h : ¬ c.IsWritable) (hcause : c.Hinders cause) :
      Yields c (.error (.foreign cause))

/-- A refusal that shows its value is an encoding fault unless the value cannot be shown. -/
theorem yields_showing {c : Call} {shown : Except Foreign Text} {failure : Text → Failure}
    {fault : Text → Fault} (h : ¬ c.IsWritable)
    (hshown : ∀ cause, c.Hinders cause ↔ shown = .error cause)
    (hfailure : ∀ text, failure text = .own (fault text))
    (hkind : ∀ text, (fault text).report.kind = .encoding)
    (hfield : ∀ text, (fault text).report.field = c.field) :
    c.Yields (.error (.showing shown failure)) := by
  cases shown with
  | error cause => exact .hindered h ((hshown cause).mpr rfl)
  | ok text =>
    rw [Failure.showing, hfailure]
    refine .refused h ?_ (hkind text) (hfield text)
    intro cause hcause
    cases (hshown cause).mp hcause

theorem hinders_fixed_iff {w : WireInt} {v : Value} {f : Option Text} (cause : Foreign) :
    (fixed w v f).Hinders cause ↔ v.shown = .error cause :=
  ⟨fun | .fixed h => h, .fixed⟩

theorem hinders_varint_iff {v : Value} {f : Option Text} (cause : Foreign) :
    (varint v f).Hinders cause ↔ v.shown = .error cause :=
  ⟨fun | .varint h => h, .varint⟩

theorem hinders_offered_iff {w : WireInt} {o : Object} {i : ℤ} {f : Option Text} (cause : Foreign) :
    (offered w o (.ok i) f).Hinders cause ↔ (Value.object o).shown = .error cause := by
  rw [Value.shown_object]
  exact ⟨fun | .offered h => h, .offered⟩

theorem hinders_mispacking_iff {w : WireInt} {o : Object} {reason : Foreign} {f : Option Text}
    (hreason : isMispacking reason = true) (cause : Foreign) :
    (offered w o (.error reason) f).Hinders cause ↔ (Value.object o).shown = .error cause := by
  rw [Value.shown_object]
  constructor
  · intro h
    cases h with
    | mispacking _ h => exact h
    | failing h => rw [hreason] at h; cases h
  · exact .mispacking hreason

/-- An integer hinders the report on its field if it has too many digits for a text. -/
theorem exists_hinders_int_iff {w : WireInt} {i : ℤ} {f : Option Text} :
    (∃ cause, (fixed w (.int i) f).Hinders cause) ↔ Nat.pow 10 Numeral.digitLimit ≤ i.natAbs := by
  rw [← Numeral.isWritable_eq_false_iff]
  simp only [hinders_fixed_iff, Value.shown_int, Numeral.shown_eq]
  cases Numeral.isWritable i <;> simp

theorem not_hinders_chars {v : Value} {f : Option Text} (cause : Foreign) :
    ¬ (chars v f).Hinders cause := by
  rintro ⟨⟩

theorem yields_fixed (w : WireInt) (v : Value) (f : Option Text) :
    (fixed w v f).Yields (fixed w v f).encode := by
  unfold encode
  dsimp only
  cases hv : v.integer? with
  | none =>
    refine yields_showing ?_ hinders_fixed_iff (fun _ ↦ rfl) (fun _ ↦ rfl) fun _ ↦ rfl
    rintro ⟨i, hi, -⟩
    rw [Value.isInteger_iff, hv] at hi
    cases hi
  | some i =>
    have hint := Value.isInteger_iff.mpr hv
    rw [Option.bind_some, WireInt.encode?]
    by_cases hrange : w.least ≤ i ∧ i ≤ w.greatest
    · rw [if_pos hrange]
      have hholds := WireInt.holds_iff.mpr hrange
      exact .written ⟨i, hint, hholds⟩ (.fixed hint hholds (w.isForm_encode i))
    · rw [if_neg hrange]
      refine yields_showing ?_ hinders_fixed_iff (fun _ ↦ rfl) (fun _ ↦ rfl) fun _ ↦ rfl
      rintro ⟨i', hi', hholds⟩
      rw [Value.isInteger_iff, hv, Option.some.injEq] at hi'
      exact hrange (WireInt.holds_iff.mp (hi' ▸ hholds))

/-- An integer with too many digits for a text belongs to no type. -/
theorem encode_fixed_of_overlong {w : WireInt} {i : ℤ} {f : Option Text}
    (h : Numeral.isWritable i = false) :
    (fixed w (.int i) f).encode = .error (.foreign .overlong) := by
  have hrange : ¬ w.Holds i := by
    intro hholds
    have hsmall : i.natAbs < 0x10000000000000000 := by
      unfold WireInt.Holds at hholds
      cases w <;> dsimp only at hholds <;> omega
    rw [Numeral.isWritable_of_lt hsmall] at h
    cases h
  rw [WireInt.holds_iff] at hrange
  unfold encode
  dsimp only [Value.integer?, Option.bind_some]
  rw [WireInt.encode?, if_neg hrange]
  dsimp only
  rw [misfit, Value.shown_int, Numeral.shown_eq, h]
  rfl

theorem yields_offered (w : WireInt) (o : Object) (offer : Except Foreign ℤ) (f : Option Text) :
    (offered w o offer f).Yields (offered w o offer f).encode := by
  unfold encode
  cases offer with
  | ok i =>
    dsimp only
    rw [WireInt.encode?]
    by_cases hrange : w.least ≤ i ∧ i ≤ w.greatest
    · rw [if_pos hrange]
      have hholds := WireInt.holds_iff.mpr hrange
      exact .written ⟨i, rfl, hholds⟩ (.offered hholds (w.isForm_encode i))
    · rw [if_neg hrange]
      refine yields_showing ?_ hinders_offered_iff (fun _ ↦ rfl) (fun _ ↦ rfl) fun _ ↦ rfl
      rintro ⟨_, ⟨⟩, hholds⟩
      exact hrange (WireInt.holds_iff.mp hholds)
  | error cause =>
    have hnone : ¬ (offered w o (.error cause) f).IsWritable := by
      rintro ⟨_, ⟨⟩, _⟩
    dsimp only
    cases hcause : isMispacking cause with
    | true =>
      rw [if_pos rfl]
      exact yields_showing hnone (hinders_mispacking_iff hcause) (fun _ ↦ rfl) (fun _ ↦ rfl)
        fun _ ↦ rfl
    | false =>
      rw [if_neg Bool.false_ne_true]
      exact .hindered hnone (.failing hcause)

theorem yields_varint (v : Value) (f : Option Text) :
    (varint v f).Yields (varint v f).encode := by
  unfold encode
  dsimp only
  rw [show varintBound = 2 ^ 64 from rfl]
  cases hv : v.integer? with
  | none =>
    refine yields_showing ?_ hinders_varint_iff (fun _ ↦ rfl) (fun _ ↦ rfl) fun _ ↦ rfl
    rintro ⟨i, hi, -⟩
    rw [Value.isInteger_iff, hv] at hi
    cases hi
  | some i =>
    have hint := Value.isInteger_iff.mpr hv
    dsimp only
    by_cases hbound : 0 ≤ i ∧ i < 2 ^ 64
    · rw [if_pos hbound]
      obtain ⟨n, rfl⟩ := Int.eq_ofNat_of_zero_le hbound.1
      refine .written ⟨n, hint, hbound⟩ ?_
      rw [Int.toNat_natCast, Layout.encode_eq_count]
      exact .varint hint (by omega)
    · rw [if_neg hbound]
      refine yields_showing ?_ hinders_varint_iff (fun _ ↦ rfl) (fun _ ↦ rfl) fun _ ↦ rfl
      rintro ⟨i', hi', hbound'⟩
      rw [Value.isInteger_iff, hv, Option.some.injEq] at hi'
      exact hbound (hi' ▸ hbound')

theorem yields_chars (v : Value) (f : Option Text) : (chars v f).Yields (chars v f).encode := by
  unfold encode
  cases v with
  | chars t =>
    dsimp only
    cases ht : t.utf8? with
    | none =>
      refine .refused ?_ not_hinders_chars rfl rfl
      rintro ⟨t', ht', hplain⟩
      cases ht'
      rw [Text.utf8?, if_pos (Text.isEncodable_iff_forall.mpr hplain)] at ht
      cases ht
    | some b =>
      obtain ⟨hencodable, rfl⟩ := Text.utf8?_eq_some_iff.mp ht
      refine .written ⟨t, rfl, Text.isEncodable_iff_forall.mp hencodable⟩ ?_
      obtain ⟨cs, hcs⟩ := Text.isEncodable_iff.mp hencodable
      have hbytes : t.utf8 = cs.flatMap String.utf8EncodeChar := by
        rw [hcs, Text.utf8_map_ofChar]
      rw [Layout.encode_eq_count, hbytes]
      exact .chars hcs
  | _ =>
    refine .refused ?_ not_hinders_chars rfl rfl
    rintro ⟨t, ht, -⟩
    cases ht

/-- Every call that gives bytes where it is asked for them yields what its value stands for. -/
theorem yields_encode {c : Call} (h : c.GivesBytes) : c.Yields c.encode := by
  cases c with
  | fixed w v f => exact yields_fixed w v f
  | offered w o offer f => exact yields_offered w o offer f
  | varint v f => exact yields_varint v f
  | chars v f => exact yields_chars v f
  | raw v =>
    obtain ⟨b, rfl⟩ := h
    exact .written ⟨b, rfl⟩ .raw
  | counted v f =>
    obtain ⟨b, rfl⟩ := h
    refine .written ⟨b, rfl⟩ ?_
    rw [Layout.encode_eq_count]
    exact .counted

/-- A call yields the same bytes whenever it yields any. -/
theorem Yields.toOption_eq {c : Call} {x y : Except Failure Bytes} (hx : c.Yields x)
    (hy : c.Yields y) : x.toOption = y.toOption := by
  cases hx with
  | written h hb =>
    cases hy with
    | written _ hb' => rw [hb.unique hb']
    | refused h' => exact absurd h h'
    | hindered h' => exact absurd h h'
  | refused h =>
    cases hy with
    | written h' => exact absurd h' h
    | refused => rfl
    | hindered => rfl
  | hindered h =>
    cases hy with
    | written h' => exact absurd h' h
    | refused => rfl
    | hindered => rfl

end Call

namespace Writer

/-! ## Runs -/

/-- What the callers of a sequence of calls are told, one after another. -/
def outcomes (w : Writer) : List Call → List (Except Failure Unit)
  | [] => []
  | c :: rest => (w.apply c).2 :: outcomes (w.apply c).1 rest

/-- A call appends the bytes that it is encoded to, and says whether there are any. -/
theorem apply_eq (w : Writer) (c : Call) :
    w.apply c = (⟨w.bytes ++ c.encode.toOption.getD []⟩, c.encode.map fun _ ↦ ()) := by
  unfold apply
  cases c.encode with
  | ok b => rfl
  | error failure =>
    obtain ⟨bytes⟩ := w
    exact Prod.ext (congrArg mk (List.append_nil bytes).symm) rfl

/-- A run appends the bytes of the calls that have any, in order. -/
theorem run_eq (w : Writer) (calls : List Call) :
    (w.run calls).bytes =
        w.bytes ++ ((calls.map Call.encode).filterMap Except.toOption).flatten ∧
      w.outcomes calls = (calls.map Call.encode).map (·.map fun _ ↦ ()) := by
  induction calls generalizing w with
  | nil => exact ⟨(List.append_nil w.bytes).symm, rfl⟩
  | cons c rest ih =>
    obtain ⟨hbytes, houtcomes⟩ := ih (w.apply c).1
    have hrun : w.run (c :: rest) = (w.apply c).1.run rest := rfl
    rw [hrun, hbytes, outcomes, houtcomes, apply_eq]
    refine ⟨?_, rfl⟩
    rw [List.map_cons, List.filterMap_cons]
    cases c.encode with
    | ok b =>
      change w.bytes ++ b ++ _ = w.bytes ++ (b :: _).flatten
      rw [List.flatten_cons, List.append_assoc]
    | error failure =>
      change w.bytes ++ [] ++ _ = _
      rw [List.append_nil]
      rfl

/-- After any sequence of calls whose bytes are byte strings, a writer holds what it held before and
the bytes that the calls stand for which succeeded, in the order of the calls.

A call succeeds exactly if its value is an integer or a truth value in the range of its type, an
object that offers such an integer, a text without surrogates, or a byte string.  A call that fails
leaves no byte, and says so by an encoding fault with the name of its field.  It says something else
exactly if its value cannot be shown, or if it is an object that fails for a reason of its own. -/
theorem yields_run (w : Writer) {calls : List Call} (h : ∀ c ∈ calls, c.GivesBytes) :
    ∃ results, List.Forall₂ Call.Yields calls results ∧
      w.outcomes calls = results.map (·.map fun _ ↦ ()) ∧
      (w.run calls).bytes = w.bytes ++ (results.filterMap Except.toOption).flatten ∧
      ∀ results', List.Forall₂ Call.Yields calls results' →
        results'.filterMap Except.toOption = results.filterMap Except.toOption := by
  obtain ⟨hbytes, houtcomes⟩ := run_eq w calls
  have hyields : List.Forall₂ Call.Yields calls (calls.map Call.encode) := by
    rw [List.forall₂_map_right_iff, List.forall₂_same]
    intro c hc
    exact Call.yields_encode (h c hc)
  refine ⟨_, hyields, houtcomes, hbytes, ?_⟩
  intro results' hresults'
  generalize calls.map Call.encode = results at hyields
  clear hbytes houtcomes h
  induction hresults' generalizing results with
  | nil =>
    cases hyields
    rfl
  | cons hfirst _ ih =>
    cases hyields with
    | cons hfirst' hrest' =>
      rw [List.filterMap_cons, List.filterMap_cons, hfirst.toOption_eq hfirst', ih _ hrest']

/-- Two calls of a run are refused, an integer above its type and a text with a surrogate; the
others leave their bytes, one after another. -/
theorem yields_run_refused :
    let calls : List Call :=
      [.fixed .u8 (.int 255) (some (lit "level")), .fixed .u8 (.int 256) (some (lit "level")),
        .chars (.chars [⟨0x61, by decide⟩, ⟨0xD800, by decide⟩]) (some (lit "memo")),
        .fixed .i16 (.int (-32768)) none, .varint (.bool true) none,
        .chars (.chars (lit "é")) none, .counted (.bytes [0x00, 0xFF]) none]
    (∀ c ∈ calls, c.GivesBytes) ∧
      ∃ results, List.Forall₂ Call.Yields calls results ∧
        (results.filterMap Except.toOption).flatten
          = [0xFF, 0x00, 0x80, 0x01, 0x02, 0xC3, 0xA9, 0x02, 0x00, 0xFF] := by
  intro calls
  have hgives : ∀ c ∈ calls, c.GivesBytes := by simp [calls, Call.GivesBytes]
  obtain ⟨results, hyields, -, hbytes, -⟩ := yields_run empty hgives
  refine ⟨hgives, results, hyields, hbytes.symm.trans ?_⟩
  decide +kernel

/-- Not every call that fails names its field: an integer of 4301 digits is refused, and callers are
only told that it has too many digits.  And not only integers are packed: an object that offers one
leaves its byte. -/
theorem exists_unnamed_refusal_of_run :
    let level : Object := ⟨lit "Level", .ok (lit "Level()")⟩
    let calls : List Call :=
      [.fixed .u8 (.int (Nat.pow 10 Numeral.digitLimit : Nat)) (some (lit "level")),
        .offered .u8 level (.ok 5) (some (lit "level"))]
    (∀ i, ¬ (Value.object level).IsInteger i) ∧
      empty.outcomes calls = [.error (.foreign .overlong), .ok ()] ∧
      (empty.run calls).bytes = [5] := by
  intro level calls
  have hinteger : ∀ i, ¬ (Value.object level).IsInteger i := by
    rintro i ⟨⟩
  have hlarge := Call.encode_fixed_of_overlong (w := .u8) (f := some (lit "level"))
    Numeral.isWritable_pow
  have hencode : calls.map Call.encode = [.error (.foreign .overlong), .ok [5]] := by
    rw [List.map_cons, hlarge]
    rfl
  obtain ⟨hbytes, houtcomes⟩ := run_eq empty calls
  rw [hencode] at hbytes houtcomes
  exact ⟨hinteger, houtcomes, hbytes⟩

end Writer

end GrapheneSigner
