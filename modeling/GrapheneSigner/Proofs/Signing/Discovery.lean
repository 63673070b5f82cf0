import Mathlib.Data.List.Nodup
import GrapheneSigner.Signing.Resolver

/-!
# The order of discovery

The walk over operations, their declarations and the accounts of these is a walk over one list of
places.  Each place is asked for a key, in order, up to the first that has none, and what is asked
of a source are exactly the lookups up to there.  If every place has a key, each key is listed at
its first occurrence.

A source that gives the same answers whatever it was asked before is described by what it answers,
and by a condition on its state that holds as long as it is only asked.
-/

namespace GrapheneSigner

/-! ## Declarations -/

namespace Requirement

end Requirement

namespace Resolver

variable {σ : Type}

/-! ## Places -/

/-- A place of the walk. -/
inductive Place where
  /-- An operation that cannot say what it needs. -/
  | undeclared (failure : Failure)
  /-- A declaration of the operation `title` that is not well formed. -/
  | malformed (title : Text) (r : Requirement)
  /-- An account whose key the operation `title` needs. -/
  | account (title : Text) (role : Role) (a : AccountName)

/-- The places of a declaration: its accounts in order, if it is well formed. -/
def placesOf (title : Text) (r : Requirement) : List Place :=
  match r.accounts? with
  | some accounts => accounts.map (.account title r.role)
  | none => [.malformed title r]

/-- The places of an operation: its declarations in order. -/
def placesIn (e : Entry) : List Place :=
  match declared e with
  | .ok (requirements, title) => requirements.flatMap (placesOf title)
  | .error failure => [.undeclared failure]

/-- The places of operations, in the order of discovery. -/
def places (operations : List Entry) : List Place := operations.flatMap placesIn

namespace Place

/-- Asks for the key of a place. -/
def ask (lookup : Lookup σ) (p : Place) (s : σ) : Except Failure KeyPair × σ :=
  match p with
  | undeclared failure => (.error failure, s)
  | malformed title r => (.error (r.malformed title), s)
  | account title role a =>
    ((lookup role a s).1.mapError (explain title role a), (lookup role a s).2)

/-- What is looked up for a place. -/
def lookups : Place → List (Role × AccountName)
  | account _ role a => [(role, a)]
  | _ => []

end Place

/-- Asks for the keys of places, up to the first that has none. -/
def scan (lookup : Lookup σ) (keys : List KeyPair) (s : σ) :
    List Place → Except Failure (List KeyPair) × σ
  | [] => (.ok keys, s)
  | p :: rest =>
    match p.ask lookup s with
    | (.ok k, s) => scan lookup (list keys k) s rest
    | (.error failure, s) => (.error failure, s)

/-! ## The walk is a scan of the places -/

section Scan

variable {lookup : Lookup σ} {keys : List KeyPair} {s s' : σ} {p : Place} {rest : List Place}

theorem scan_cons_ok {k : KeyPair} (h : p.ask lookup s = (.ok k, s')) :
    scan lookup keys s (p :: rest) = scan lookup (list keys k) s' rest := by
  rw [scan, h]

theorem scan_cons_error {failure : Failure} (h : p.ask lookup s = (.error failure, s')) :
    scan lookup keys s (p :: rest) = (.error failure, s') := by
  rw [scan, h]

end Scan

theorem scan_append (lookup : Lookup σ) (keys : List KeyPair) (s : σ) (ps qs : List Place) :
    scan lookup keys s (ps ++ qs) = match scan lookup keys s ps with
      | (.ok keys, s) => scan lookup keys s qs
      | (.error failure, s) => (.error failure, s) := by
  induction ps generalizing keys s with
  | nil => rfl
  | cons p rest ih =>
    rw [List.cons_append]
    rcases hask : p.ask lookup s with ⟨answer, s'⟩
    cases answer with
    | ok k => rw [scan_cons_ok hask, scan_cons_ok hask, ih]
    | error failure => rw [scan_cons_error hask, scan_cons_error hask]

theorem ask_account (lookup : Lookup σ) (title : Text) (role : Role) (a : AccountName) (s : σ) :
    (Place.account title role a).ask lookup s
      = ((lookup role a s).1.mapError (explain title role a), (lookup role a s).2) :=
  rfl

theorem walkAccounts_eq_scan (lookup : Lookup σ) (title : Text) (role : Role)
    (keys : List KeyPair) (s : σ) (accounts : List AccountName) :
    walkAccounts lookup title role keys s accounts
      = scan lookup keys s (accounts.map (.account title role)) := by
  induction accounts generalizing keys s with
  | nil => rfl
  | cons a rest ih =>
    rw [List.map_cons, walkAccounts]
    have hask := ask_account lookup title role a s
    rcases hlookup : lookup role a s with ⟨answer, s'⟩
    rw [hlookup] at hask
    cases answer with
    | ok k => rw [scan_cons_ok hask, ← ih]
    | error failure => rw [scan_cons_error hask]

theorem walkRequirements_eq_scan (lookup : Lookup σ) (title : Text) (keys : List KeyPair) (s : σ)
    (requirements : List Requirement) :
    walkRequirements lookup title keys s requirements
      = scan lookup keys s (requirements.flatMap (placesOf title)) := by
  induction requirements generalizing keys s with
  | nil => rfl
  | cons r rest ih =>
    rw [List.flatMap_cons, scan_append]
    unfold walkRequirements placesOf
    cases r.accounts? with
    | none => rfl
    | some accounts =>
      dsimp only
      rw [walkAccounts_eq_scan]
      rcases scan lookup keys s (accounts.map (.account title r.role)) with ⟨answer, s'⟩
      cases answer with
      | ok keys => exact ih _ _
      | error failure => rfl

theorem walk_eq_scan (lookup : Lookup σ) (keys : List KeyPair) (s : σ) (operations : List Entry) :
    walk lookup keys s operations = scan lookup keys s (places operations) := by
  induction operations generalizing keys s with
  | nil => rfl
  | cons e rest ih =>
    unfold places
    rw [List.flatMap_cons, scan_append]
    unfold walk placesIn
    cases declared e with
    | error failure => rfl
    | ok found =>
      obtain ⟨requirements, title⟩ := found
      dsimp only
      rw [walkRequirements_eq_scan]
      rcases scan lookup keys s (requirements.flatMap (placesOf title)) with ⟨answer, s'⟩
      cases answer with
      | ok keys => exact ih _ _
      | error failure => rfl

theorem resolve_eq_scan (lookup : Lookup σ) (operations : List Entry) (s : σ) :
    resolve lookup operations s = scan lookup [] s (places operations) :=
  walk_eq_scan lookup [] s operations

/-! ## Sources that always give the same answers -/

/-- While `I` holds of its state, a source answers by `f`, and `I` holds as long as it is only
asked. -/
structure Answers (lookup : Lookup σ) (f : Role → AccountName → Except Failure KeyPair)
    (I : σ → Prop) : Prop where
  answer_eq : ∀ {role a s}, I s → (lookup role a s).1 = f role a
  keeps : ∀ {role a s}, I s → I (lookup role a s).2

/-- A store that is only asked stays as it is. -/
theorem answers_keyStore (store : KeyStore) : Answers KeyStore.lookup store.resolve (· = store) :=
  ⟨fun h ↦ by rw [h]; rfl, fun h ↦ h⟩

/-- The state of a source after lookups. -/
def after (lookup : Lookup σ) (s : σ) (asked : List (Role × AccountName)) : σ :=
  asked.foldl (fun s (l : Role × AccountName) ↦ (lookup l.1 l.2 s).2) s

/-- The key of a place, or why it has none. -/
def Place.key (f : Role → AccountName → Except Failure KeyPair) : Place → Except Failure KeyPair
  | undeclared failure => .error failure
  | malformed title r => .error (r.malformed title)
  | account title role a => (f role a).mapError (explain title role a)

/-- The keys of places, as long as they have one. -/
def found (f : Role → AccountName → Except Failure KeyPair) (ps : List Place) : List KeyPair :=
  ps.filterMap fun p ↦ (p.key f).toOption

variable {lookup : Lookup σ} {f : Role → AccountName → Except Failure KeyPair} {I : σ → Prop}

theorem Answers.ask_eq (h : Answers lookup f I) {s : σ} (hs : I s) (p : Place) :
    p.ask lookup s = (p.key f, after lookup s p.lookups) := by
  cases p with
  | undeclared failure => rfl
  | malformed title r => rfl
  | account title role a =>
    rw [ask_account, h.answer_eq hs]
    rfl

theorem Answers.keeps_after (h : Answers lookup f I) {s : σ} (hs : I s)
    (asked : List (Role × AccountName)) : I (after lookup s asked) := by
  induction asked generalizing s with
  | nil => exact hs
  | cons l rest ih => exact ih (h.keeps hs)

theorem after_append (lookup : Lookup σ) (s : σ) (asked asked' : List (Role × AccountName)) :
    after lookup s (asked ++ asked') = after lookup (after lookup s asked) asked' :=
  List.foldl_append

/-- Places that all have keys are all asked, and their keys are listed. -/
theorem Answers.scan_of_ok (h : Answers lookup f I) {s : σ} (hs : I s) (keys : List KeyPair)
    {ps : List Place} (hok : ∀ p ∈ ps, ∃ k, p.key f = .ok k) :
    scan lookup keys s ps
      = (.ok ((found f ps).foldl list keys), after lookup s (ps.flatMap Place.lookups)) := by
  induction ps generalizing keys s with
  | nil => rfl
  | cons p rest ih =>
    obtain ⟨k, hk⟩ := hok p List.mem_cons_self
    have hfound : found f (p :: rest) = k :: found f rest :=
      List.filterMap_cons_some (by rw [hk]; rfl)
    have hask := h.ask_eq hs p
    rw [hk] at hask
    rw [scan_cons_ok hask, hfound, List.foldl_cons, List.flatMap_cons, after_append]
    exact ih (h.keeps_after hs _) _ fun q hq ↦ hok q (List.mem_cons_of_mem _ hq)

/-- The first place without key ends the scan. -/
theorem Answers.scan_of_error (h : Answers lookup f I) {s : σ} (hs : I s) (keys : List KeyPair)
    {pre post : List Place} {p : Place} {failure : Failure}
    (hok : ∀ q ∈ pre, ∃ k, q.key f = .ok k) (hp : p.key f = .error failure) :
    scan lookup keys s (pre ++ p :: post)
      = (.error failure, after lookup s (pre.flatMap Place.lookups ++ p.lookups)) := by
  have hask := h.ask_eq (h.keeps_after hs (pre.flatMap Place.lookups)) p
  rw [hp] at hask
  rw [scan_append, h.scan_of_ok hs keys hok]
  dsimp only
  rw [scan_cons_error hask, after_append]

/-- Either all places have keys, or there is a first that has none. -/
theorem exists_first_error (f : Role → AccountName → Except Failure KeyPair) (ps : List Place) :
    (∀ p ∈ ps, ∃ k, p.key f = .ok k) ∨
      ∃ pre p post failure, ps = pre ++ p :: post ∧ (∀ q ∈ pre, ∃ k, q.key f = .ok k) ∧
        p.key f = .error failure := by
  induction ps with
  | nil => exact .inl fun p hp ↦ absurd hp List.not_mem_nil
  | cons p rest ih =>
    cases hp : p.key f with
    | error failure =>
      exact .inr ⟨[], p, rest, failure, rfl, fun q hq ↦ absurd hq List.not_mem_nil, hp⟩
    | ok k =>
      rcases ih with hall | ⟨pre, q, post, failure, rfl, hpre, hq⟩
      · exact .inl (List.forall_mem_cons.mpr ⟨⟨k, hp⟩, hall⟩)
      · exact .inr ⟨p :: pre, q, post, failure, rfl, List.forall_mem_cons.mpr ⟨⟨k, hp⟩, hpre⟩, hq⟩

/-! ## Each key once -/

theorem list_of_mem {keys : List KeyPair} {k : KeyPair} (h : k ∈ keys) : list keys k = keys :=
  if_pos h

theorem list_of_not_mem {keys : List KeyPair} {k : KeyPair} (h : k ∉ keys) :
    list keys k = keys ++ [k] :=
  if_neg h

theorem nodup_list {keys : List KeyPair} (h : keys.Nodup) (k : KeyPair) : (list keys k).Nodup := by
  by_cases hk : k ∈ keys
  · rw [list_of_mem hk]
    exact h
  · rw [list_of_not_mem hk, ← List.concat_eq_append]
    exact h.concat hk

theorem nodup_foldl_list {keys : List KeyPair} (h : keys.Nodup) (more : List KeyPair) :
    (more.foldl list keys).Nodup := by
  induction more generalizing keys with
  | nil => exact h
  | cons k rest ih => exact ih (nodup_list h k)

theorem nodup_of_scan {lookup : Lookup σ} {s : σ} {ps : List Place} {keys keys' : List KeyPair}
    (hnodup : keys.Nodup) (h : (scan lookup keys s ps).1 = .ok keys') : keys'.Nodup := by
  induction ps generalizing keys s with
  | nil =>
    cases h
    exact hnodup
  | cons p rest ih =>
    rcases hask : p.ask lookup s with ⟨answer, s'⟩
    cases answer with
    | ok k =>
      rw [scan_cons_ok hask] at h
      exact ih (nodup_list hnodup k) h
    | error failure =>
      rw [scan_cons_error hask] at h
      cases h

/-- Whatever a source answers, each key is listed once. -/
theorem nodup_of_resolve {lookup : Lookup σ} {operations : List Entry} {s : σ}
    {keys : List KeyPair} (h : (resolve lookup operations s).1 = .ok keys) : keys.Nodup := by
  rw [resolve_eq_scan] at h
  exact nodup_of_scan List.nodup_nil h

/-- Listing keys behind others keeps the first occurrence of each that is not among these. -/
theorem foldl_list (keys more : List KeyPair) :
    more.foldl list keys = keys ++ (more.removeAll keys).eraseDups := by
  induction more generalizing keys with
  | nil => exact (List.append_nil keys).symm
  | cons k rest ih =>
    rw [List.foldl_cons, ih, List.cons_removeAll]
    by_cases hk : k ∈ keys
    · have hcontains : ¬ keys.contains k = false := by simp [hk]
      rw [list_of_mem hk, if_neg hcontains]
    · have hcontains : keys.contains k = false := by simp [hk]
      have hfilter : rest.removeAll (keys ++ [k])
          = (rest.removeAll keys).filter fun other ↦ !other == k := by
        unfold List.removeAll
        rw [List.filter_filter]
        congr 1
        funext other
        rw [Bool.eq_iff_iff]
        simp [and_comm]
      rw [list_of_not_mem hk, if_pos hcontains, List.eraseDups_cons, hfilter, List.append_assoc,
        List.singleton_append]

theorem foldl_list_nil (keys : List KeyPair) : keys.foldl list [] = keys.eraseDups := by
  rw [foldl_list, List.nil_append, List.removeAll_nil]

theorem nodup_eraseDups (keys : List KeyPair) : keys.eraseDups.Nodup := by
  rw [← foldl_list_nil]
  exact nodup_foldl_list List.nodup_nil keys

theorem key_account_of_error {role : Role} {a : AccountName} {failure : Failure}
    (h : f role a = .error failure) (title : Text) :
    (Place.account title role a).key f = .error (explain title role a failure) := by
  unfold Place.key
  dsimp only
  rw [h]
  rfl

theorem key_eq_ok_iff {p : Place} {k : KeyPair} :
    p.key f = .ok k ↔ ∃ title role a, p = .account title role a ∧ f role a = .ok k := by
  constructor
  · intro h
    cases p with
    | undeclared failure => cases h
    | malformed title r => cases h
    | account title role a =>
      refine ⟨title, role, a, rfl, ?_⟩
      cases hanswer : f role a with
      | ok k' =>
        unfold Place.key at h
        dsimp only at h
        rw [hanswer] at h
        exact h
      | error failure =>
        rw [key_account_of_error hanswer title] at h
        cases h
  · rintro ⟨title, role, a, rfl, h⟩
    unfold Place.key
    dsimp only
    rw [h]
    rfl

/-- The keys of places are the keys of their accounts. -/
theorem mem_found_iff {k : KeyPair} {ps : List Place} :
    k ∈ found f ps ↔ ∃ title role a, .account title role a ∈ ps ∧ f role a = .ok k := by
  unfold found
  rw [List.mem_filterMap]
  constructor
  · rintro ⟨p, hp, hk⟩
    have hkey : p.key f = .ok k := by
      cases hkey : p.key f with
      | ok k' =>
        rw [hkey] at hk
        cases hk
        rfl
      | error failure =>
        rw [hkey] at hk
        cases hk
    obtain ⟨title, role, a, rfl, hanswer⟩ := key_eq_ok_iff.mp hkey
    exact ⟨title, role, a, hp, hanswer⟩
  · rintro ⟨title, role, a, hp, hanswer⟩
    exact ⟨_, hp, by rw [key_eq_ok_iff.mpr ⟨title, role, a, rfl, hanswer⟩]; rfl⟩

section

variable (h : Answers lookup f I) {s : σ} (hs : I s) {operations : List Entry}

include h hs

/-- The first place without key ends the resolution. -/
theorem Answers.resolve_of_error {pre post : List Place} {p : Place} {failure : Failure}
    (hplaces : places operations = pre ++ p :: post)
    (hok : ∀ q ∈ pre, ∃ k, q.key f = .ok k) (hp : p.key f = .error failure) :
    resolve lookup operations s
      = (.error failure, after lookup s (pre.flatMap Place.lookups ++ p.lookups)) := by
  rw [resolve_eq_scan, hplaces]
  exact h.scan_of_error hs [] hok hp

/-- If all places have keys, each key is listed at its first occurrence. -/
theorem Answers.resolve_of_ok (hok : ∀ p ∈ places operations, ∃ k, p.key f = .ok k) :
    resolve lookup operations s = (.ok (found f (places operations)).eraseDups,
      after lookup s ((places operations).flatMap Place.lookups)) := by
  rw [resolve_eq_scan, h.scan_of_ok hs [] hok, foldl_list_nil]

/-- If the resolution succeeds, all places have keys, and each key is listed at its first
occurrence. -/
theorem Answers.eq_of_resolve {keys : List KeyPair}
    (hkeys : (resolve lookup operations s).1 = .ok keys) :
    keys = (found f (places operations)).eraseDups := by
  rcases exists_first_error f (places operations) with
    hok | ⟨pre, p, post, failure, hsplit, hok, hp⟩
  · rw [h.resolve_of_ok hs hok] at hkeys
    cases hkeys
    rfl
  · rw [h.resolve_of_error hs hsplit hok hp] at hkeys
    cases hkeys

end

end Resolver

end GrapheneSigner
