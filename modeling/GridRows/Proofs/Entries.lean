import Mathlib.Data.List.Perm.Subperm
import Mathlib.Tactic.Lemma

/-!
# Entries by key

Lists of entries that are looked up by key.  Whatever order an insertion keeps, if it changes what is
found under its own key alone, then of the entries inserted with one key the last is found
(`lookup_foldl`).
-/

namespace GridRows.Entries

/-- Different keys are as many as the names that they are taken from exactly if those differ too. -/
lemma length_eq_iff_nodup {κ : Type} {keys names : List κ} (hkeys : keys.Nodup)
    (hmem : ∀ key, key ∈ keys ↔ key ∈ names) : keys.length = names.length ↔ names.Nodup := by
  constructor
  · intro h
    have hsub : List.Subperm keys names := List.subperm_of_subset hkeys fun key => (hmem key).mp
    exact (hsub.perm_of_length_le (Nat.le_of_eq h.symm)).nodup_iff.mp hkeys
  · intro hnames
    exact ((List.perm_ext_iff_of_nodup hkeys hnames).mpr hmem).length_eq

variable {κ β : Type} [DecidableEq κ] {key : κ} {value : β} {entries : List (κ × β)}

/-- The first entry answers for its own key, and the others for all else. -/
lemma lookup_cons (k : κ) (v : β) :
    List.lookup key ((k, v) :: entries) = if key = k then some v else entries.lookup key := by
  by_cases hkey : key = k
  · rw [if_pos hkey, hkey, List.lookup_cons_self]
  · rw [if_neg hkey, List.lookup_cons, beq_false_of_ne hkey]

/-- A new value for the first entry. -/
lemma lookup_replaced (k : κ) (v old : β) :
    List.lookup key ((k, v) :: entries) =
      if key = k then some v else List.lookup key ((k, old) :: entries) := by
  rw [lookup_cons, lookup_cons]
  split
  · rfl
  · rfl

/-- A new value for a key that the first entry does not have. -/
lemma lookup_behind {k c : κ} {changed : List (κ × β)} (old : β) (hne : c ≠ k)
    (h : changed.lookup key = if key = k then some value else entries.lookup key) :
    List.lookup key ((c, old) :: changed) =
      if key = k then some value else List.lookup key ((c, old) :: entries) := by
  rw [lookup_cons, lookup_cons, h]
  by_cases hc : key = c
  · have hk : key ≠ k := fun e => hne (hc.symm.trans e)
    rw [if_pos hc, if_neg hk, if_pos hc]
  · rw [if_neg hc, if_neg hc]

/-- Nothing is found for a key exactly if no entry has it. -/
lemma lookup_eq_none : entries.lookup key = none ↔ key ∉ entries.map Prod.fst := by
  rw [List.lookup_eq_none_iff, List.mem_map]
  constructor
  · rintro h ⟨entry, hentry, rfl⟩
    simpa using h entry hentry
  · intro h entry hentry
    have hne : key ≠ entry.1 := fun e => h ⟨entry, hentry, e.symm⟩
    simpa using hne

/-- What is done to the values is done to the one that is found. -/
lemma lookup_map {γ : Type} (f : β → γ) :
    (entries.map fun entry => (entry.1, f entry.2)).lookup key = (entries.lookup key).map f := by
  induction entries with
  | nil => rfl
  | cons entry entries ih =>
    rw [List.map_cons, lookup_cons, ih, lookup_cons]
    split
    · rfl
    · rfl

/-- Among different keys every entry is found under its own. -/
lemma lookup_of_mem (hnodup : (entries.map Prod.fst).Nodup) (h : (key, value) ∈ entries) :
    entries.lookup key = some value := by
  induction entries with
  | nil => cases h
  | cons entry entries ih =>
    obtain ⟨hnew, hrest⟩ := List.nodup_cons.mp hnodup
    rcases List.mem_cons.mp h with rfl | h
    · exact List.lookup_cons_self
    · have hne : key ≠ entry.1 := fun e => hnew (e ▸ List.mem_map_of_mem h)
      rw [lookup_cons, if_neg hne]
      exact ih hrest h

section Insertion

variable {insert : κ → β → List (κ × β) → List (κ × β)}

/-- Of the entries that are inserted with a key the last counts, and before them what was there. -/
lemma lookup_foldl (hinsert : ∀ k v es, (insert k v es).lookup key =
      if key = k then some v else es.lookup key) (pairs : List (κ × β)) :
    (pairs.foldl (fun es pair => insert pair.1 pair.2 es) entries).lookup key =
      (pairs.reverse.lookup key).or (entries.lookup key) := by
  induction pairs generalizing entries with
  | nil => rfl
  | cons pair pairs ih =>
    rw [List.foldl_cons, ih, hinsert, List.reverse_cons, List.lookup_append, Option.or_assoc]
    congr 1
    rw [lookup_cons, List.lookup_nil]
    split
    · rfl
    · rfl

/-- Of entries that are inserted one after the other the last with the key is found. -/
lemma lookup_foldl_nil (hinsert : ∀ k v es, (insert k v es).lookup key =
      if key = k then some v else es.lookup key) (pairs : List (κ × β)) :
    (pairs.foldl (fun es pair => insert pair.1 pair.2 es) []).lookup key =
      pairs.reverse.lookup key := by
  rw [lookup_foldl hinsert, List.lookup_nil, Option.or_none]

/-- The keys that are found after insertions into an empty list are those inserted. -/
lemma mem_keys_foldl (hinsert : ∀ k v es, (insert k v es).lookup key =
      if key = k then some v else es.lookup key) (pairs : List (κ × β)) :
    key ∈ (pairs.foldl (fun es pair => insert pair.1 pair.2 es) []).map Prod.fst ↔
      key ∈ pairs.map Prod.fst := by
  rw [← not_iff_not, ← lookup_eq_none, ← lookup_eq_none, lookup_foldl_nil hinsert, lookup_eq_none,
    lookup_eq_none, List.map_reverse, List.mem_reverse]

end Insertion

end GridRows.Entries
