import GridRows.Sql.Query
import Mathlib.Data.List.Infix
import Mathlib.Tactic.Lemma

/-!
# Patterns and predicates on texts

`Like` relates a pattern to the texts that match it.  Patterns put one behind the other match texts put
one behind the other (`like_append`), so a run of any characters around a pattern asks for a part of
the text that matches it.  `Expr.holds?` evaluates a predicate on a row whose cells are texts.
-/

namespace GridRows.Sql

/--
The text matches the pattern, which comes first: `%` stands for any run of characters, `_` for any one
character, and every other character for itself.
-/
inductive Like : List Char → List Char → Prop where
  | nil :
    Like [] []
  | run {p cs} (skipped : List Char) :
    Like p cs →
    Like ('%' :: p) (skipped ++ cs)
  | one {p cs} (c : Char) :
    Like p cs →
    Like ('_' :: p) (c :: cs)
  | same {p cs} {c : Char} :
    c ≠ '%' →
    c ≠ '_' →
    Like p cs →
    Like (c :: p) (c :: cs)

/-- The characters of a pattern that do not stand for themselves. -/
def isWildcard (c : Char) : Bool := c = '%' || c = '_'

section Like

variable {p q cs : List Char}

/-! ## What a pattern matches -/

/-- The empty pattern matches the empty text alone. -/
lemma like_nil : Like [] cs ↔ cs = [] := by
  constructor
  · intro h
    cases h
    rfl
  · rintro rfl
    exact .nil

/-- A run may skip any characters before the rest of the pattern matches. -/
lemma like_run : Like ('%' :: p) cs ↔ ∃ skipped rest, cs = skipped ++ rest ∧ Like p rest := by
  constructor
  · intro h
    cases h with
    | run skipped h => exact ⟨skipped, _, rfl, h⟩
    | same hrun _ _ => exact absurd rfl hrun
  · rintro ⟨skipped, rest, rfl, h⟩
    exact .run skipped h

/-- One character of any kind comes before what the rest of the pattern matches. -/
lemma like_one : Like ('_' :: p) cs ↔ ∃ c rest, cs = c :: rest ∧ Like p rest := by
  constructor
  · intro h
    cases h with
    | one c h => exact ⟨c, _, rfl, h⟩
    | same _ hone _ => exact absurd rfl hone
  · rintro ⟨c, rest, rfl, h⟩
    exact .one c h

/-- A plain character comes before what the rest of the pattern matches. -/
lemma like_same {c : Char} (hc : isWildcard c = false) :
    Like (c :: p) cs ↔ ∃ rest, cs = c :: rest ∧ Like p rest := by
  have hplain : c ≠ '%' ∧ c ≠ '_' := by simpa [isWildcard] using hc
  obtain ⟨hrun, hone⟩ := hplain
  constructor
  · intro h
    cases h with
    | run => exact absurd rfl hrun
    | one => exact absurd rfl hone
    | same _ _ h => exact ⟨_, rfl, h⟩
  · rintro ⟨rest, rfl, h⟩
    exact .same hrun hone h

/-- Texts that match two patterns match them one behind the other. -/
lemma Like.append {front back : List Char} (h : Like p front) (h' : Like q back) :
    Like (p ++ q) (front ++ back) := by
  induction h with
  | nil => exact h'
  | run skipped _ ih =>
    rw [List.append_assoc]
    exact .run skipped ih
  | one c _ ih => exact .one c ih
  | same hrun hone _ ih => exact .same hrun hone ih

/-- A pattern of two parts matches what its parts match, one behind the other. -/
lemma like_append :
    Like (p ++ q) cs ↔ ∃ front back, cs = front ++ back ∧ Like p front ∧ Like q back := by
  constructor
  · intro h
    induction p generalizing cs with
    | nil => exact ⟨[], cs, rfl, .nil, h⟩
    | cons c p ih =>
      cases h with
      | run skipped h =>
        obtain ⟨front, back, rfl, hp, hq⟩ := ih h
        exact ⟨skipped ++ front, back, (List.append_assoc ..).symm, .run skipped hp, hq⟩
      | one d h =>
        obtain ⟨front, back, rfl, hp, hq⟩ := ih h
        exact ⟨d :: front, back, rfl, .one d hp, hq⟩
      | same hrun hone h =>
        obtain ⟨front, back, rfl, hp, hq⟩ := ih h
        exact ⟨c :: front, back, rfl, .same hrun hone hp, hq⟩
  · rintro ⟨front, back, rfl, hp, hq⟩
    exact hp.append hq

/-- Any text is a run. -/
lemma like_any (cs : List Char) : Like ['%'] cs := by
  have h := Like.run cs Like.nil
  rw [List.append_nil] at h
  exact h

/-- Without wildcards a pattern matches itself alone. -/
lemma like_plain (h : ∀ c ∈ p, isWildcard c = false) : Like p cs ↔ cs = p := by
  induction p generalizing cs with
  | nil => exact like_nil
  | cons c p ih =>
    obtain ⟨hc, hp⟩ := List.forall_mem_cons.mp h
    rw [like_same hc]
    constructor
    · rintro ⟨rest, rfl, hrest⟩
      rw [(ih hp).mp hrest]
    · rintro rfl
      exact ⟨p, rfl, (ih hp).mpr rfl⟩

/-- With a run behind it, a pattern asks for a beginning that matches. -/
lemma like_startsWith : Like (p ++ ['%']) cs ↔ ∃ part, part <+: cs ∧ Like p part := by
  rw [like_append]
  constructor
  · rintro ⟨front, back, rfl, hp, -⟩
    exact ⟨front, List.prefix_append front back, hp⟩
  · rintro ⟨front, ⟨back, rfl⟩, hp⟩
    exact ⟨front, back, rfl, hp, like_any back⟩

/-- With a run before it, a pattern asks for an end that matches. -/
lemma like_endsWith : Like ('%' :: p) cs ↔ ∃ part, part <:+ cs ∧ Like p part := by
  rw [like_run]
  constructor
  · rintro ⟨skipped, rest, rfl, hp⟩
    exact ⟨rest, List.suffix_append skipped rest, hp⟩
  · rintro ⟨rest, ⟨skipped, rfl⟩, hp⟩
    exact ⟨skipped, rest, rfl, hp⟩

/-- Between two runs, a pattern asks for a part that matches. -/
lemma like_contains : Like ('%' :: (p ++ ['%'])) cs ↔ ∃ part, part <:+: cs ∧ Like p part := by
  rw [like_endsWith]
  constructor
  · rintro ⟨rest, hrest, h⟩
    obtain ⟨part, hpart, hp⟩ := like_startsWith.mp h
    exact ⟨part, hpart.isInfix.trans hrest.isInfix, hp⟩
  · rintro ⟨part, ⟨skipped, back, rfl⟩, hp⟩
    rw [List.append_assoc]
    exact ⟨part ++ back, List.suffix_append skipped _,
      like_startsWith.mpr ⟨part, List.prefix_append part back, hp⟩⟩

/-! ## Wildcards taken up -/

/-- A text without wildcards that the pattern matches: runs are empty, other wildcards a letter. -/
def tamed (p : List Char) : List Char :=
  p.filterMap fun c => if c = '%' then none else if c = '_' then some 'x' else some c

/-- A pattern matches the text in which its wildcards are taken up. -/
lemma like_tamed (p : List Char) : Like p (tamed p) := by
  induction p with
  | nil => exact .nil
  | cons c p ih =>
    unfold tamed at ih ⊢
    by_cases hrun : c = '%'
    · subst hrun
      exact .run [] ih
    · by_cases hone : c = '_'
      · subst hone
        exact .one 'x' ih
      · simp only [List.filterMap_cons, if_neg hrun, if_neg hone]
        exact .same hrun hone ih

/-- No wildcard is left where they are taken up. -/
lemma isWildcard_of_mem_tamed {c : Char} (h : c ∈ tamed p) : isWildcard c = false := by
  obtain ⟨d, -, hd⟩ := List.mem_filterMap.mp h
  split at hd
  · cases hd
  · split at hd
    · cases hd
      rfl
    · cases hd
      simp [isWildcard, *]

/-- A pattern with a wildcard matches a text of which it is no part. -/
lemma not_infix_tamed {c : Char} (hc : c ∈ p) (hwild : isWildcard c = true) : ¬ p <:+: tamed p := by
  intro h
  have hplain := isWildcard_of_mem_tamed (h.subset hc)
  rw [hwild] at hplain
  cases hplain

end Like

/-! ## Deciding -/

/-- Whether the text matches the pattern, which comes first. -/
def matchesLike : List Char → List Char → Bool
  | [], cs => cs.isEmpty
  | c :: p, cs =>
    if c = '%' then cs.tails.any fun rest => matchesLike p rest
    else
      match cs with
      | [] => false
      | d :: rest => (c = '_' || c = d) && matchesLike p rest

/-- The matcher decides whether a pattern matches. -/
lemma matchesLike_iff {p cs : List Char} : matchesLike p cs = true ↔ Like p cs := by
  induction p generalizing cs with
  | nil => rw [like_nil, matchesLike, List.isEmpty_iff]
  | cons c p ih =>
    unfold matchesLike
    split
    · rename_i hrun
      subst hrun
      -- what a run skips leaves some end of the text for the rest of the pattern
      rw [like_endsWith, List.any_eq_true]
      constructor
      · rintro ⟨rest, hrest, h⟩
        exact ⟨rest, (List.mem_tails _ _).mp hrest, ih.mp h⟩
      · rintro ⟨rest, hrest, h⟩
        exact ⟨rest, (List.mem_tails _ _).mpr hrest, ih.mpr h⟩
    · rename_i hrun
      by_cases hone : c = '_'
      · subst hone
        rw [like_one]
        cases cs with
        | nil => simp
        | cons d rest => simp [ih]
      · have hplain : isWildcard c = false := by simp [isWildcard, hrun, hone]
        rw [like_same hplain]
        cases cs with
        | nil => simp
        | cons d rest =>
          simp only [hone, decide_false, Bool.false_or, Bool.and_eq_true, decide_eq_true_eq, ih]
          constructor
          · rintro ⟨rfl, h⟩
            exact ⟨rest, rfl, h⟩
          · rintro ⟨_, ⟨⟩, h⟩
            exact ⟨rfl, h⟩

instance (p cs : List Char) : Decidable (Like p cs) := decidable_of_iff _ matchesLike_iff

/-! ## Predicates on rows of texts -/

/-- What an operator says of two texts.  The order of texts is left to the server. -/
def BinaryOperator.onTexts? : BinaryOperator → Option (String → String → Bool)
  | .eq => some fun x y => x = y
  | .neq => some fun x y => x ≠ y
  | .like => some fun x y => Like y.toList x.toList
  | .notLike => some fun x y => ¬ Like y.toList x.toList
  | _ => none

/-- The text that an expression stands for in a row of texts, if it stands for one. -/
def Expr.text? (row : String → String) : Expr → Option String
  | .column name => some (row name)
  | .literal (.string s) => some s
  | .nested inner => inner.text? row
  | .asText inner => inner.text? row
  | _ => none

/-- Whether a predicate holds of a row of texts, if it says something of one. -/
def Expr.holds? (row : String → String) : Expr → Option Bool
  | .always => some true
  | .nested inner => inner.holds? row
  | .binary .and left right => do return (← left.holds? row) && (← right.holds? row)
  | .binary op left right => do return (← op.onTexts?) (← left.text? row) (← right.text? row)
  | _ => none

end GridRows.Sql
