import GridRows.Json.Value
import GridRows.Proofs.Entries
import Mathlib.Data.String.Basic

/-!
# Members of objects

An object made of a list of pairs has one member for each key, sorted by key, and its value is that of
the last pair with the key.  If the keys differ, the members are the pairs (`perm_ofList`).
-/

namespace GridRows.Json.Members

variable {key : String} {value : Value} {members : Members}

/-- Setting a member changes what is found under its key, and nothing else. -/
lemma lookup_insert (k : String) :
    (insert key value members).lookup k = if k = key then some value else members.lookup k := by
  induction members with
  | nil => exact Entries.lookup_cons key value
  | cons member members ih =>
    obtain ⟨name, old⟩ := member
    rw [insert]
    split
    · exact Entries.lookup_cons key value
    · split
      · rename_i hname
        subst hname
        exact Entries.lookup_replaced key value old
      · rename_i hname
        exact Entries.lookup_behind old (Ne.symm hname) ih

/-- The members are in the order of their keys, which differ. -/
def Sorted (members : Members) : Prop := (members.map Prod.fst).Pairwise (· < ·)

/-- After an insertion the names are the new one and those before. -/
lemma mem_keys_insert {name : String} (h : name ∈ (insert key value members).map Prod.fst) :
    name = key ∨ name ∈ members.map Prod.fst := by
  by_contra hnot
  obtain ⟨hne, hmem⟩ := not_or.mp hnot
  rw [← Entries.lookup_eq_none] at hmem
  have hfound : (insert key value members).lookup name = _ := lookup_insert name
  rw [if_neg hne, hmem, Entries.lookup_eq_none] at hfound
  exact hfound h

/-- Insertion keeps the members in the order of their keys. -/
lemma Sorted.insert (h : Sorted members) : Sorted (insert key value members) := by
  induction members with
  | nil => exact List.pairwise_singleton ..
  | cons member members ih =>
    obtain ⟨name, old⟩ := member
    obtain ⟨hname, hrest⟩ := List.pairwise_cons.mp h
    rw [Members.insert]
    split
    · rename_i hlt
      refine List.pairwise_cons.mpr ⟨fun k hk => ?_, h⟩
      rcases List.mem_cons.mp hk with rfl | hk
      · exact hlt
      · exact hlt.trans (hname k hk)
    · rename_i hle
      split
      · rename_i heq
        subst heq
        exact h
      · rename_i hne
        refine List.pairwise_cons.mpr ⟨fun k hk => ?_, ih hrest⟩
        rcases mem_keys_insert hk with rfl | hk
        · exact lt_of_le_of_ne (not_lt.mp hle) (Ne.symm hne)
        · exact hname k hk

/-- The members of an object are in the order of their keys. -/
lemma sorted_ofList (pairs : List (String × Value)) : Sorted (ofList pairs) := by
  suffices h : ∀ members, Sorted members →
      Sorted (pairs.foldl (fun members pair => members.insert pair.1 pair.2) members) from
    h [] .nil
  induction pairs with
  | nil => exact fun members hm => hm
  | cons pair pairs ih => exact fun members hm => ih _ hm.insert

/-- The keys of an object differ. -/
lemma nodup_keys_ofList (pairs : List (String × Value)) :
    ((ofList pairs).map Prod.fst).Nodup :=
  (sorted_ofList pairs).imp fun h => ne_of_lt h

/-- Of pairs with the same key the last counts. -/
lemma lookup_ofList (pairs : List (String × Value)) (k : String) :
    (ofList pairs).lookup k = pairs.reverse.lookup k :=
  Entries.lookup_foldl_nil (fun _ _ _ => lookup_insert k) pairs

/-- The keys of an object are those of the pairs it is made of. -/
lemma mem_keys_ofList (pairs : List (String × Value)) (k : String) :
    k ∈ (ofList pairs).map Prod.fst ↔ k ∈ pairs.map Prod.fst :=
  Entries.mem_keys_foldl (fun _ _ _ => lookup_insert k) pairs

/-! ## Different keys -/

/-- A member with a new key is put between those that are there. -/
lemma perm_insert (h : key ∉ members.map Prod.fst) :
    (insert key value members).Perm ((key, value) :: members) := by
  induction members with
  | nil => exact .refl _
  | cons member members ih =>
    obtain ⟨name, old⟩ := member
    obtain ⟨hne, hnew⟩ : key ≠ name ∧ key ∉ members.map Prod.fst :=
      not_or.mp (mt List.mem_cons.mpr h)
    rw [insert, if_neg hne]
    split
    · exact .refl _
    · exact ((ih hnew).cons _).trans (.swap ..)

/-- Pairs with different keys become the members of an object, each as it is. -/
lemma perm_ofList {pairs : List (String × Value)} (h : (pairs.map Prod.fst).Nodup) :
    (ofList pairs).Perm pairs := by
  suffices hfold : ∀ members : Members, (∀ key ∈ pairs.map Prod.fst, key ∉ members.map Prod.fst) →
      (pairs.foldl (fun members pair => members.insert pair.1 pair.2) members).Perm
        (pairs ++ members) by
    have hall := hfold [] fun _ _ => List.not_mem_nil
    rwa [List.append_nil] at hall
  induction pairs with
  | nil => exact fun members _ => .refl members
  | cons pair pairs ih =>
    obtain ⟨name, value⟩ := pair
    obtain ⟨hname, hrest⟩ := List.nodup_cons.mp h
    intro members hnew
    have hinsert : (insert name value members).Perm ((name, value) :: members) :=
      perm_insert (hnew name List.mem_cons_self)
    have hstill : ∀ key ∈ pairs.map Prod.fst, key ∉ (insert name value members).map Prod.fst := by
      intro key hkey hmem
      rcases mem_keys_insert hmem with rfl | hold
      · exact hname hkey
      · exact hnew key (List.mem_cons_of_mem _ hkey) hold
    exact (ih hrest _ hstill).trans ((hinsert.append_left pairs).trans List.perm_middle)

end GridRows.Json.Members
