import Mathlib.Data.List.Induction
import GrapheneSigner.Proofs.Signing.Discovery
import GrapheneSigner.Proofs.Wire.Refusal

/-!
# Lookups under a limit

A source with a limit gives every lookup what the store behind its connection gives, unless that
does not come in time, and then a fault that is worth another try.  A lookup that hangs keeps its
worker, but the worker is replaced, so that later lookups do not notice.  Resolving keeps apart
what is worth another try and what is not: its failure is worth one exactly if the first lookup that
fails was not answered in time.

A limit that is longer than any clock can wait is none of this.  Under it, a lookup whose answer is
not there at once fails with an overflow, and one that hangs keeps the only worker, so that all
lookups behind it fail likewise.
-/

namespace GrapheneSigner

namespace KeySource

open Resolver (after after_append)

variable {s s' : KeySource} {limit : Limit} {n : ℕ} {role : Role} {a : AccountName}

/-- What the connection does with lookup number `i`, counted from zero. -/
def connectionAt (s : KeySource) (i : ℕ) : Connection := s.plan[i]?.getD .pass

def outcomeAt (s : KeySource) (i : ℕ) (role : Role) (a : AccountName) : Outcome :=
  (s.connectionAt i).outcome s.store role a

/-- Lookup number `i` hangs. -/
def HangsAt (s : KeySource) (i : ℕ) : Prop := s.connectionAt i = .hang

theorem outcomeAt_eq_hung_iff {i : ℕ} : s.outcomeAt i role a = .hung ↔ s.HangsAt i := by
  unfold outcomeAt HangsAt
  cases s.connectionAt i with
  | pass => exact iff_of_false nofun nofun
  | answer result => exact iff_of_false nofun nofun
  | hang => exact iff_of_true rfl rfl

/-- Nobody has to wait for lookup number `i`. -/
def IsAtOnce (s : KeySource) (i : ℕ) : Prop := (s.connectionAt i).isAtOnce = true

theorem HangsAt.not_isAtOnce {i : ℕ} (h : s.HangsAt i) : ¬ s.IsAtOnce i := by
  unfold IsAtOnce
  rw [h]
  exact Bool.false_ne_true

/-! ## Reports -/

/-- A limit that a clock can wait for has a notation. -/
theorem exists_shown_of_limit (hlimited : limit.isEndless = false) :
    ∃ text, limit.seconds.shown = .ok text := by
  have hleaf (v : Value) (text : Text) (h : v.shown = .ok text) : ∃ text, v.shown = .ok text :=
    ⟨text, h⟩
  obtain ⟨seconds, hpositive⟩ := limit
  cases seconds with
  | int i =>
    have hpos : 0 < i := by simpa [Value.isPositive?, Value.integer?] using hpositive
    have hlt : i * 1000000000 < Limit.clockBound := by
      simpa [Limit.isEndless, Limit.exceedsClock, Value.integer?] using hlimited
    have hwritable : Numeral.isWritable i = true := by
      apply Numeral.isWritable_of_lt
      unfold Limit.clockBound at hlt
      omega
    refine ⟨Text.ofInt i, ?_⟩
    rw [Value.shown_int, Numeral.shown_eq, if_pos hwritable]
  | bool b => exact hleaf _ _ (by rw [Value.shown, Value.shownLeaf])
  | float x => exact hleaf _ _ (by rw [Value.shown, Value.shownLeaf])
  | _ => cases hpositive

theorem report_eq {text : Text} (hshown : limit.seconds.shown = .ok text) :
    report limit role a s = (.error (late text role a),
      { s with warnings := s.warnings ++ [lateWarning text role a] }) := by
  rw [report, hshown]

/-! ## One lookup -/

/-- A source after `n` lookups, with an idle worker. -/
structure Follows (s s' : KeySource) (n : ℕ) : Prop where
  store_eq : s'.store = s.store
  plan_eq : s'.plan = s.plan.drop n
  limit_eq : s'.limit = s.limit
  isStuck_eq : s'.isStuck = false
  calls_eq : s'.calls = s.calls + n

namespace Follows

theorem refl (h : s.isStuck = false) : Follows s s 0 := ⟨rfl, rfl, rfl, h, rfl⟩

theorem next_eq (h : Follows s s' n) : s'.next = s.connectionAt n := by
  unfold next connectionAt
  rw [h.plan_eq, List.headD_eq_head?_getD, List.head?_drop]

theorem outcome_eq (h : Follows s s' n) :
    s'.next.outcome s'.store role a = s.outcomeAt n role a := by
  rw [h.next_eq, h.store_eq, outcomeAt]

theorem advance (h : Follows s s' n) : Follows s s'.advance (n + 1) where
  store_eq := h.store_eq
  plan_eq := by
    rw [← List.tail_drop, ← h.plan_eq]
    rfl
  limit_eq := h.limit_eq
  isStuck_eq := h.isStuck_eq
  calls_eq := congrArg (· + 1) h.calls_eq

/-- A fresh worker is idle, whatever became of the one before. -/
theorem renew (h : Follows s s' n) (isStuck : Bool) : Follows s { s' with isStuck }.renew n :=
  ⟨h.store_eq, h.plan_eq, h.limit_eq, rfl, h.calls_eq⟩

/-- Reports leave everything but the warnings. -/
theorem report (h : Follows s s' n) (limit : Limit) (role : Role) (a : AccountName) :
    Follows s (KeySource.report limit role a s').2 n := by
  unfold KeySource.report
  cases limit.seconds.shown with
  | ok text => exact ⟨h.store_eq, h.plan_eq, h.limit_eq, h.isStuck_eq, h.calls_eq⟩
  | error cause => exact h

theorem submit_of_settled (h : Follows s s' n) {result : Except Failure KeyPair}
    (houtcome : s.outcomeAt n role a = .settled result) :
    s'.submit role a = (some result, s'.advance) := by
  unfold submit
  rw [h.isStuck_eq, h.outcome_eq, houtcome]
  rfl

theorem submit_of_hung (h : Follows s s' n) (houtcome : s.outcomeAt n role a = .hung) :
    s'.submit role a = (none, { s'.advance with isStuck := true }) := by
  unfold submit
  rw [h.isStuck_eq, h.outcome_eq, houtcome]
  rfl

section

variable (h : Follows s s' n) (hlimit : s.limit = some limit)

include h hlimit

theorem lookup_eq (role : Role) (a : AccountName) :
    lookup role a s' = lookupWithin limit role a s' := by
  unfold lookup
  rw [h.limit_eq, hlimit]

/-- A lookup whose answer is there at once, or can be waited for, gives what it ends with. -/
theorem lookup_of_settled (hlimited : limit.isEndless = false) {result : Except Failure KeyPair}
    (houtcome : s.outcomeAt n role a = .settled result)
    (hresult : result ≠ .error (.foreign .timedOut)) :
    lookup role a s' = (result, s'.advance) := by
  rw [h.lookup_eq hlimit, lookupWithin, h.submit_of_settled houtcome]
  dsimp only [Limit.await]
  rw [hlimited, Bool.false_and, if_neg Bool.false_ne_true, Option.getD_some]
  split
  · exact absurd rfl hresult
  · rfl

/-- A lookup that times out by its own account gives the fault of a late one, and the worker is
replaced. -/
theorem lookup_of_timedOut (hlimited : limit.isEndless = false)
    (houtcome : s.outcomeAt n role a = .settled (.error (.foreign .timedOut))) :
    lookup role a s' = s'.advance.renew.report limit role a := by
  rw [h.lookup_eq hlimit, lookupWithin, h.submit_of_settled houtcome]
  dsimp only [Limit.await]
  rw [hlimited]
  rfl

/-- A lookup that hangs gives the fault of a late one, and the worker that it keeps is replaced. -/
theorem lookup_of_hung (hlimited : limit.isEndless = false)
    (houtcome : s.outcomeAt n role a = .hung) :
    lookup role a s' = { s'.advance with isStuck := true }.renew.report limit role a := by
  rw [h.lookup_eq hlimit, lookupWithin, h.submit_of_hung houtcome]
  dsimp only [Limit.await]
  rw [hlimited]
  rfl

/-- Both are the fault of a late lookup. -/
theorem lookup_of_late (hlimited : limit.isEndless = false)
    (houtcome : s.outcomeAt n role a = .hung ∨
      s.outcomeAt n role a = .settled (.error (.foreign .timedOut))) :
    ∃ text, (lookup role a s').1 = .error (late text role a) := by
  obtain ⟨text, htext⟩ := exists_shown_of_limit hlimited
  refine ⟨text, ?_⟩
  rcases houtcome with houtcome | houtcome
  · rw [h.lookup_of_hung hlimit hlimited houtcome, report_eq htext]
  · rw [h.lookup_of_timedOut hlimit hlimited houtcome, report_eq htext]

/-- Whoever has to wait longer than any clock can gets an overflow. -/
theorem overflow_of_not_isAtOnce (hendless : limit.isEndless = true) (hwait : ¬ s.IsAtOnce n)
    (role : Role) (a : AccountName) :
    lookup role a s' = (.error (.foreign .overflow), (s'.submit role a).2) := by
  have hatOnce : s'.next.isAtOnce = false := by
    rw [h.next_eq]
    exact Bool.eq_false_iff.mpr hwait
  rw [h.lookup_eq hlimit, lookupWithin]
  dsimp only [Limit.await]
  rw [hendless, hatOnce]
  rfl

/-- A lookup that does not hang leaves an idle worker. -/
theorem after_settled {result : Except Failure KeyPair}
    (houtcome : s.outcomeAt n role a = .settled result) :
    Follows s (lookup role a s').2 (n + 1) := by
  rw [h.lookup_eq hlimit, lookupWithin, h.submit_of_settled houtcome]
  dsimp only
  split
  · exact (h.advance.renew s'.isStuck).report limit role a
  · exact h.advance

/-- Every lookup leaves an idle worker, unless it hangs longer than any clock can wait. -/
theorem after_lookup (hwait : limit.isEndless = true → ¬ s.HangsAt n) :
    Follows s (lookup role a s').2 (n + 1) := by
  cases houtcome : s.outcomeAt n role a with
  | hung =>
    have hlimited : limit.isEndless = false := by
      rw [Bool.eq_false_iff]
      exact fun hendless ↦ hwait hendless (outcomeAt_eq_hung_iff.mp houtcome)
    rw [h.lookup_of_hung hlimit hlimited houtcome]
    exact (h.advance.renew true).report limit role a
  | settled result => exact h.after_settled hlimit houtcome

end

end Follows

/-- While the only worker is kept longer than any clock can wait, every lookup is an overflow. -/
theorem lookup_of_isStuck (hlimit : s.limit = some limit) (hstuck : s.isStuck = true)
    (hendless : limit.isEndless = true) :
    lookup role a s = (.error (.foreign .overflow), s) := by
  have hsubmit : s.submit role a = (none, s) := by rw [submit, if_pos hstuck]
  unfold lookup lookupWithin
  rw [hlimit, hsubmit]
  dsimp only [Limit.await]
  rw [hendless, Option.isSome_none, Bool.and_false]
  rfl

/-! ## Lookups one after another -/

section

variable (hlimit : s.limit = some limit) (hfree : s.isStuck = false)

include hlimit hfree

/-- Lookups leave an idle worker, as long as none hangs longer than any clock can wait. -/
theorem follows_after {asked : List (Role × AccountName)}
    (hwait : limit.isEndless = true → ∀ i < asked.length, ¬ s.HangsAt i) :
    Follows s (after lookup s asked) asked.length := by
  induction asked using List.reverseRecOn with
  | nil => exact .refl hfree
  | append_singleton asked l ih =>
    rw [List.length_append, List.length_singleton] at hwait
    have hbefore := ih fun hendless i hi ↦ hwait hendless i (by omega)
    rw [after_append, List.length_append, List.length_singleton]
    exact hbefore.after_lookup hlimit fun hendless ↦ hwait hendless asked.length (by omega)

/-- Behind a lookup that hangs longer than any clock can wait, the worker is kept. -/
theorem isStuck_after (hendless : limit.isEndless = true) {asked : List (Role × AccountName)}
    (hhangs : ∃ i < asked.length, s.HangsAt i) :
    (after lookup s asked).isStuck = true ∧ (after lookup s asked).limit = some limit := by
  induction asked using List.reverseRecOn with
  | nil =>
    obtain ⟨i, hi, _⟩ := hhangs
    cases hi
  | append_singleton asked l ih =>
    rw [List.length_append, List.length_singleton] at hhangs
    have hlast : after lookup s (asked ++ [l]) = (lookup l.1 l.2 (after lookup s asked)).2 :=
      after_append ..
    rw [hlast]
    -- either the worker is kept already, or this lookup is the first one that hangs
    by_cases hbefore : ∃ i < asked.length, s.HangsAt i
    · obtain ⟨hstuck, hkept⟩ := ih hbefore
      rw [lookup_of_isStuck hkept hstuck hendless]
      exact ⟨hstuck, hkept⟩
    · have hfollows : Follows s (after lookup s asked) asked.length :=
        follows_after hlimit hfree fun _ i hi h ↦ hbefore ⟨i, hi, h⟩
      obtain ⟨i, hi, hhang⟩ := hhangs
      obtain rfl : i = asked.length := by
        by_contra hne
        exact hbefore ⟨i, by omega, hhang⟩
      rw [hfollows.overflow_of_not_isAtOnce hlimit hendless hhang.not_isAtOnce,
        hfollows.submit_of_hung (outcomeAt_eq_hung_iff.mpr hhang)]
      exact ⟨rfl, hfollows.limit_eq.trans hlimit⟩

/-- Under a limit that no clock can wait for, a lookup is an overflow if its answer is not there at
once, or if one before it hangs. -/
theorem overflow_after (hendless : limit.isEndless = true) {asked : List (Role × AccountName)}
    (hlate : (∃ i < asked.length, s.HangsAt i) ∨ ¬ s.IsAtOnce asked.length) (role : Role)
    (a : AccountName) :
    (lookup role a (after lookup s asked)).1 = .error (.foreign .overflow) := by
  by_cases hbefore : ∃ i < asked.length, s.HangsAt i
  · obtain ⟨hstuck, hkept⟩ := isStuck_after hlimit hfree hendless hbefore
    rw [lookup_of_isStuck hkept hstuck hendless]
  · have hfollows : Follows s (after lookup s asked) asked.length :=
      follows_after hlimit hfree fun _ i hi h ↦ hbefore ⟨i, hi, h⟩
    rw [hfollows.overflow_of_not_isAtOnce hlimit hendless (hlate.resolve_left hbefore)]

end

/-- The fault of a late lookup is worth another try, and says for which account and role. -/
theorem exists_late (shown : Text) (role : Role) (a : AccountName) :
    ∃ fault, late shown role a = .own fault ∧ fault.report.kind = .lookupTimeout ∧
      fault.report.code = .timeout ∧ fault.report.details
        = [(lit "account", .chars a.name), (lit "keyType", .chars role.name)] :=
  ⟨_, rfl, rfl, rfl, rfl⟩

end KeySource

namespace Resolver

open KeySource

/-! ## Required authorities -/

section Flatten

variable {ε α β γ : Type} {f : α → Except ε (List β)} {g : α → List γ} {R : γ → β → Prop}

/-- Lists that are related member by member are related as wholes. -/
theorem forall₂_flatten_of_mapM (hR : ∀ a bs, f a = .ok bs → List.Forall₂ R (g a) bs)
    {as : List α} {bss : List (List β)} (h : as.mapM f = .ok bss) :
    List.Forall₂ R (as.flatMap g) bss.flatten := by
  induction as generalizing bss with
  | nil =>
    rw [List.mapM_nil] at h
    cases h
    exact .nil
  | cons a rest ih =>
    rw [List.mapM_cons] at h
    obtain ⟨bs, ha, h⟩ := exists_of_bind_eq_ok h
    obtain ⟨bss', hrest, h⟩ := exists_of_bind_eq_ok h
    cases h
    exact List.rel_append (hR a bs ha) (ih hrest)

end Flatten

/-- The place asks for the key of an authority. -/
def Place.Asks (p : Place) (l : Role × AccountName) : Prop := ∃ title, p = .account title l.1 l.2

theorem asks_placesOf {title : Text} {r : Requirement} {authorities : List (Role × AccountName)}
    (h : Entry.authoritiesOf title r = .ok authorities) :
    List.Forall₂ Place.Asks (placesOf title r) authorities := by
  unfold Entry.authoritiesOf at h
  unfold placesOf
  cases haccounts : r.accounts? with
  | none =>
    rw [haccounts] at h
    cases h
  | some accounts =>
    rw [haccounts] at h
    cases h
    dsimp only
    rw [List.forall₂_map_left_iff, List.forall₂_map_right_iff, List.forall₂_same]
    exact fun a _ ↦ ⟨title, rfl⟩

theorem asks_placesIn {e : Entry} {authorities : List (Role × AccountName)}
    (h : e.authorities = .ok authorities) : List.Forall₂ Place.Asks (placesIn e) authorities := by
  obtain ⟨requirements, hrequirements, h⟩ := exists_of_bind_eq_ok h
  obtain ⟨title, htitle, h⟩ := exists_of_bind_eq_ok h
  obtain ⟨groups, hgroups, h⟩ := exists_of_bind_eq_ok h
  cases h
  have hdeclared : declared e = .ok (requirements, title) := by
    unfold declared
    rw [hrequirements, htitle]
    rfl
  unfold placesIn
  rw [hdeclared]
  exact forall₂_flatten_of_mapM (fun _ _ ↦ asks_placesOf) hgroups

/-- Operations whose declarations are well formed are asked for their authorities, in order. -/
theorem asks_places {operations : List Entry} {groups : List (List (Role × AccountName))}
    (h : operations.mapM Entry.authorities = .ok groups) :
    List.Forall₂ Place.Asks (places operations) groups.flatten :=
  forall₂_flatten_of_mapM (fun _ _ ↦ asks_placesIn) h

/-! ## What is worth another try -/

/-- The failure of a lookup, either because the key is missing or because it does not come in
time; `late` tells which. -/
inductive Fails : Outcome → (late : Bool) → Prop
  /-- The key is missing. -/
  | missing {cause : Fault} (h : cause.report.kind = .missingKey) :
    Fails (.settled (.error (.own cause))) false
  /-- The store reports that it did not find out in time. -/
  | reported {cause : Fault} (h : cause.report.kind = .lookupTimeout) :
    Fails (.settled (.error (.own cause))) true
  /-- The lookup times out by its own account. -/
  | timedOut : Fails (.settled (.error (.foreign .timedOut))) true
  /-- The lookup hangs. -/
  | hung : Fails .hung true

/-- An explained fault is worth another try if faults of its kind are. -/
theorem isRetryable_explain {cause : Fault} (h : cause.report.kind.isMissingKey = true)
    (hfree : cause.report.kind.obstacle? = none) (title : Text) (role : Role) (a : AccountName) :
    (explain title role a (.own cause)).isRetryable = (cause.report.kind.code == .timeout) := by
  unfold explain
  dsimp only
  rw [if_pos h, hfree]
  rfl

/-- So is the fault of a late lookup. -/
theorem isRetryable_explain_late (shown title : Text) (role : Role) (a : AccountName) :
    (explain title role a (late shown role a)).isRetryable = true :=
  isRetryable_explain rfl rfl title role a

variable {s s' : KeySource} {limit : Limit} {n : ℕ}

theorem exists_ask_of_fails (hlimit : s.limit = some limit) (hlimited : limit.isEndless = false)
    (hfollows : Follows s s' n) {role : Role} {a : AccountName} {late : Bool}
    (h : Fails (s.outcomeAt n role a) late) (title : Text) :
    ∃ failure left, (Place.account title role a).ask lookup s' = (.error failure, left) ∧
      failure.isRetryable = late := by
  have hlate (houtcome : s.outcomeAt n role a = .hung ∨
      s.outcomeAt n role a = .settled (.error (.foreign .timedOut))) :
      ∃ failure left, (Place.account title role a).ask lookup s' = (.error failure, left) ∧
        failure.isRetryable = true := by
    obtain ⟨text, htext⟩ := hfollows.lookup_of_late hlimit hlimited houtcome
    rw [ask_account, htext]
    exact ⟨_, _, rfl, isRetryable_explain_late text title role a⟩
  have hown {cause : Fault} (houtcome : s.outcomeAt n role a = .settled (.error (.own cause))) :
      (Place.account title role a).ask lookup s'
        = (.error (explain title role a (.own cause)), s'.advance) := by
    rw [ask_account, hfollows.lookup_of_settled hlimit hlimited houtcome nofun]
    rfl
  generalize houtcome : s.outcomeAt n role a = outcome at h
  cases h with
  | missing hkind =>
    refine ⟨_, _, hown houtcome, ?_⟩
    rw [isRetryable_explain (by rw [hkind]; rfl) (by rw [hkind]; rfl), hkind]
    rfl
  | reported hkind =>
    refine ⟨_, _, hown houtcome, ?_⟩
    rw [isRetryable_explain (by rw [hkind]; rfl) (by rw [hkind]; rfl), hkind]
    rfl
  | timedOut => exact hlate (.inr houtcome)
  | hung => exact hlate (.inl houtcome)

/-- What comes of the numbered lookup of an authority. -/
def outcomeOf (s : KeySource) (l : (Role × AccountName) × ℕ) : Outcome :=
  s.outcomeAt l.2 l.1.1 l.1.2

/-- Either all lookups have keys, and they are found, or the failure is worth another try exactly if
the first lookup that fails does not come in time. -/
theorem scan_of_follows (hlimit : s.limit = some limit) (hlimited : limit.isEndless = false)
    (hfollows : Follows s s' n) {ps : List Place} {required : List (Role × AccountName)}
    (hasks : List.Forall₂ Place.Asks ps required)
    (husual : ∀ l ∈ required.zipIdx n,
      (∃ k, outcomeOf s l = .settled (.ok k)) ∨ ∃ late, Fails (outcomeOf s l) late)
    (keys : List KeyPair) :
    ((∀ l ∈ required.zipIdx n, ∃ k, outcomeOf s l = .settled (.ok k)) ∧
      ∃ found, (scan lookup keys s' ps).1 = .ok found) ∨
    ∃ before l behind late failure, required.zipIdx n = before ++ l :: behind ∧
      (∀ l ∈ before, ∃ k, outcomeOf s l = .settled (.ok k)) ∧ Fails (outcomeOf s l) late ∧
      (scan lookup keys s' ps).1 = .error failure ∧ failure.isRetryable = late := by
  induction hasks generalizing n s' keys with
  | nil => exact .inl ⟨fun l hl ↦ absurd hl List.not_mem_nil, keys, rfl⟩
  | @cons p l ps required hask _ ih =>
    obtain ⟨title, rfl⟩ := hask
    rw [List.zipIdx_cons, List.forall_mem_cons] at husual
    simp only [List.zipIdx_cons, List.forall_mem_cons]
    rcases husual.1 with ⟨k, hk⟩ | ⟨late, hfails⟩
    · have hanswer := hfollows.lookup_of_settled hlimit hlimited hk nofun
      have hplace : (Place.account title l.1 l.2).ask lookup s' = (.ok k, s'.advance) := by
        rw [ask_account, hanswer]
        rfl
      rw [scan_cons_ok hplace]
      rcases ih hfollows.advance husual.2 (list keys k) with
        ⟨hall, hfound⟩ | ⟨before, first, behind, late, failure, hsplit, hbefore, hrest⟩
      · exact .inl ⟨⟨⟨k, hk⟩, hall⟩, hfound⟩
      · refine .inr ⟨(l, n) :: before, first, behind, late, failure, ?_, ?_, hrest⟩
        · rw [hsplit, List.cons_append]
        · exact List.forall_mem_cons.mpr ⟨⟨k, hk⟩, hbefore⟩
    · obtain ⟨failure, left, hplace, hretryable⟩ :=
        exists_ask_of_fails hlimit hlimited hfollows hfails title
      rw [scan_cons_error hplace]
      exact .inr ⟨[], (l, n), _, late, failure, rfl, fun l hl ↦ absurd hl List.not_mem_nil, hfails,
        rfl, hretryable⟩

end Resolver

namespace KeySource

open Resolver

/-- A limit changes nothing but what does not come in time.

After any lookups, the next one gives what comes of it behind the connection.  If nothing comes, or
a lookup that timed out by its own account, it gives a fault for its account and role with the code
of a timeout.  Lookups that hung before do not matter: the worker is idle, and every lookup has been
made.

Resolving operations whose declarations are well formed, by lookups that have a key, miss it or do
not come in time, ends with the keys if all lookups have one, and otherwise with a failure that is
worth another try exactly if the first lookup without key did not come in time.

All this holds of limits that a clock can wait for.  Under other limits a lookup is an overflow if
its answer is not there at once, or if a lookup before it hangs. -/
theorem transparent_except_late {s : KeySource} {limit : Limit} (hlimit : s.limit = some limit)
    (hfree : s.isStuck = false) :
    (limit.isEndless = false →
      ∀ (asked : List (Role × AccountName)) (role : Role) (a : AccountName),
      (∀ result, s.outcomeAt asked.length role a = .settled result →
        result ≠ .error (.foreign .timedOut) →
        (lookup role a (after lookup s asked)).1 = result) ∧
      (s.outcomeAt asked.length role a = .hung ∨
        s.outcomeAt asked.length role a = .settled (.error (.foreign .timedOut)) →
        ∃ fault, (lookup role a (after lookup s asked)).1 = .error (.own fault) ∧
          fault.report.kind = .lookupTimeout ∧ fault.report.code = .timeout ∧
          fault.report.details
            = [(lit "account", .chars a.name), (lit "keyType", .chars role.name)]) ∧
      (after lookup s asked).isStuck = false ∧
      (after lookup s asked).calls = s.calls + asked.length) ∧
    (limit.isEndless = false →
      ∀ (operations : List Entry) (groups : List (List (Role × AccountName))),
      operations.mapM Entry.authorities = .ok groups →
      (∀ l ∈ groups.flatten.zipIdx,
        (∃ k, outcomeOf s l = .settled (.ok k)) ∨ ∃ late, Fails (outcomeOf s l) late) →
      ((∀ l ∈ groups.flatten.zipIdx, ∃ k, outcomeOf s l = .settled (.ok k)) ∧
        ∃ keys, (resolve lookup operations s).1 = .ok keys) ∨
      ∃ before l behind late failure, groups.flatten.zipIdx = before ++ l :: behind ∧
        (∀ l ∈ before, ∃ k, outcomeOf s l = .settled (.ok k)) ∧ Fails (outcomeOf s l) late ∧
        (resolve lookup operations s).1 = .error failure ∧ failure.isRetryable = late) ∧
    (limit.isEndless = true →
      ∀ (asked : List (Role × AccountName)) (role : Role) (a : AccountName),
      (∃ i < asked.length, s.HangsAt i) ∨ ¬ s.IsAtOnce asked.length →
      (lookup role a (after lookup s asked)).1 = .error (.foreign .overflow)) := by
  refine ⟨?_, ?_, ?_⟩
  · intro hlimited asked role a
    have hfollows : Follows s (after lookup s asked) asked.length :=
      follows_after hlimit hfree fun hendless ↦ absurd hendless (Bool.eq_false_iff.mp hlimited)
    refine ⟨?_, ?_, hfollows.isStuck_eq, hfollows.calls_eq⟩
    · intro result houtcome hresult
      rw [hfollows.lookup_of_settled hlimit hlimited houtcome hresult]
    · intro houtcome
      obtain ⟨text, htext⟩ := hfollows.lookup_of_late hlimit hlimited houtcome
      obtain ⟨fault, hlate, hfault⟩ := exists_late text role a
      exact ⟨fault, htext.trans (congrArg Except.error hlate), hfault⟩
  · intro hlimited operations groups hgroups husual
    rw [resolve_eq_scan]
    exact scan_of_follows hlimit hlimited (.refl hfree) (asks_places hgroups) husual []
  · intro hendless asked role a hlate
    exact overflow_after hlimit hfree hendless hlate role a

/-- The store knows the posting key of alice.  Under a limit of five seconds the second lookup hangs
and the third one does not notice; resolving a document that needs the keys of alice and bob is
worth another try. -/
theorem transparent_except_late_document :
    let alice : AccountName := ⟨lit "alice", by decide⟩
    let bob : AccountName := ⟨lit "bob", by decide⟩
    let key : KeyPair := ⟨1, true, by decide, by decide⟩
    let s : KeySource := { ofStore (KeyStore.empty.setKey alice .posting key) with
      plan := [.pass, .hang], limit := some ⟨.int 5, rfl⟩ }
    let document : Operation := .customJson ⟨[], [alice, bob], lit "follow", lit "[]"⟩
    s.isStuck = false ∧ s.HangsAt 1 ∧
      (∃ fault, (lookup .posting bob (after lookup s [(.posting, alice)])).1 = .error (.own fault) ∧
        fault.report.code = .timeout) ∧
      (lookup .posting alice (after lookup s [(.posting, alice), (.posting, bob)])).1 = .ok key ∧
      ∃ failure, (resolve lookup [document.toEntry] s).1 = .error failure ∧
        failure.isRetryable = true := by
  intro alice bob key s document
  have hlimit : s.limit = some ⟨.int 5, rfl⟩ := rfl
  have hlimited : Limit.isEndless ⟨.int 5, rfl⟩ = false := rfl
  obtain ⟨hlookups, hresolve, _⟩ := transparent_except_late hlimit rfl
  obtain ⟨_, hlate, _⟩ := hlookups hlimited [(.posting, alice)] .posting bob
  obtain ⟨fault, hfault, _, hcode, _⟩ := hlate (.inl rfl)
  obtain ⟨hanswer, _⟩ := hlookups hlimited [(.posting, alice), (.posting, bob)] .posting alice
  refine ⟨rfl, rfl, ⟨fault, hfault, hcode⟩, hanswer _ rfl nofun, ?_⟩
  have husual : ∀ l ∈ [((Role.posting, alice), 0), ((Role.posting, bob), 1)],
      (∃ k, outcomeOf s l = .settled (.ok k)) ∨ ∃ late, Fails (outcomeOf s l) late := by
    intro l hl
    rcases List.mem_pair.mp hl with rfl | rfl
    · exact .inl ⟨key, rfl⟩
    · exact .inr ⟨true, .hung⟩
  rcases hresolve hlimited [document.toEntry] [[(.posting, alice), (.posting, bob)]] rfl husual with
    ⟨hall, _⟩ | ⟨before, l, behind, late, failure, hsplit, _, hfails, hfailure, hretryable⟩
  · obtain ⟨k, hk⟩ := hall ((.posting, bob), 1) (List.mem_pair.mpr (.inr rfl))
    cases hk
  · have hmem : l ∈ [((Role.posting, alice), 0), ((Role.posting, bob), 1)] :=
      (congrArg (l ∈ ·) hsplit).mpr (List.mem_append_right before List.mem_cons_self)
    have hlate : late = true := by
      rcases List.mem_pair.mp hmem with rfl | rfl
      · have hanswered : Fails (.settled (.ok key)) late := hfails
        cases hanswered
      · have hhung : Fails .hung late := hfails
        cases hhung
        rfl
    exact ⟨failure, hfailure, hretryable.trans hlate⟩

/-- A limit is not always transparent.  Under one of more than 292 years a lookup that hangs is an
overflow, and so is the next one, although the store has the key that it asks for. -/
theorem exists_overflow_of_hung :
    ∃ (source s : KeySource) (a : AccountName) (k : KeyPair),
      source.isStuck = false ∧ source.withLimit (.int 10000000000) = .ok s ∧
      s.outcomeAt 0 .posting a = .hung ∧ s.outcomeAt 1 .posting a = .settled (.ok k) ∧
      (lookup .posting a s).1 = .error (.foreign .overflow) ∧
      (lookup .posting a (after lookup s [(.posting, a)])).1 = .error (.foreign .overflow) := by
  let alice : AccountName := ⟨lit "alice", by decide⟩
  let key : KeyPair := ⟨1, true, by decide, by decide⟩
  let source : KeySource :=
    { ofStore (KeyStore.empty.setKey alice .posting key) with plan := [.hang] }
  exact ⟨source, _, alice, key, rfl, rfl, rfl, rfl, rfl, rfl⟩

end KeySource

end GrapheneSigner
