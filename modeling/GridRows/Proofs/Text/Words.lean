import GridRows.Text.Blank
import Mathlib.Tactic.Lemma

/-!
# The words of a text

`Spaced` says that a text is written with given words: blanks stand between each two, and around them at
will.  Every text is written with its own words in this way, and with no others (`words_eq_iff`).
-/

namespace GridRows.Text

/-- Nothing but blanks, or nothing at all. -/
def IsGap (cs : List Char) : Prop := ∀ c ∈ cs, isBlank c

/-- A run of characters that are not blank. -/
structure IsWord (cs : List Char) : Prop where
  nonempty : cs ≠ []
  unbroken : ∀ c ∈ cs, ¬ isBlank c

/-- The text is written with the words, in their order. -/
inductive Spaced : List (List Char) → List Char → Prop where
  | nil {gap : List Char} (hgap : IsGap gap) : Spaced [] gap
  /-- Behind the word the text ends or goes on with a blank. -/
  | cons {gap word rest : List Char} {words : List (List Char)} (hgap : IsGap gap)
      (hword : IsWord word) (hnext : ∀ c ∈ rest.head?, isBlank c) (hrest : Spaced words rest) :
      Spaced (word :: words) (gap ++ word ++ rest)

/-! ## Words that are found -/

/-- Blanks before the first word are passed over. -/
lemma wordsAfter_gap {gap : List Char} (h : IsGap gap) (rest : List Char) :
    wordsAfter [] (gap ++ rest) = wordsAfter [] rest := by
  induction gap with
  | nil => rfl
  | cons c gap ih =>
    obtain ⟨hc, hgap⟩ := List.forall_mem_cons.mp h
    rw [List.cons_append, wordsAfter, if_pos hc]
    exact ih hgap

/-- Characters that are not blank are added to the word that has begun. -/
lemma wordsAfter_unbroken {word : List Char} (h : ∀ c ∈ word, ¬ isBlank c)
    (before rest : List Char) :
    wordsAfter before (word ++ rest) = wordsAfter (word.reverse ++ before) rest := by
  induction word generalizing before with
  | nil => rfl
  | cons c word ih =>
    obtain ⟨hc, hword⟩ := List.forall_mem_cons.mp h
    rw [List.cons_append, wordsAfter, if_neg hc, ih hword, List.reverse_cons, List.append_assoc]
    rfl

/-- A word ends where the text ends or goes on with a blank. -/
lemma wordsAfter_ended {found rest : List Char} (hfound : found ≠ [])
    (hnext : ∀ c ∈ rest.head?, isBlank c) :
    wordsAfter found rest = found.reverse :: wordsAfter [] rest := by
  have hempty : ¬ found.isEmpty := mt List.isEmpty_iff.mp hfound
  cases rest with
  | nil => rw [wordsAfter, if_neg hempty, wordsAfter, if_pos List.isEmpty_nil]
  | cons c rest =>
    have hc : isBlank c := hnext c rfl
    rw [wordsAfter, if_pos hc, if_neg hempty, wordsAfter, if_pos hc, if_pos List.isEmpty_nil]

/-- A text that is written with words has those words. -/
lemma Spaced.words_eq {ws : List (List Char)} {cs : List Char} (h : Spaced ws cs) :
    words cs = ws := by
  induction h with
  | @nil gap hgap =>
    rw [words, ← List.append_nil gap, wordsAfter_gap hgap]
    rfl
  | @cons gap word rest ws hgap hword hnext _ ih =>
    have hne : word.reverse ≠ [] := mt List.reverse_eq_nil_iff.mp hword.nonempty
    rw [words, List.append_assoc, wordsAfter_gap hgap, wordsAfter_unbroken hword.unbroken,
      List.append_nil, wordsAfter_ended hne hnext, List.reverse_reverse]
    exact congrArg (word :: ·) ih

/-! ## Texts that are written -/

/-- A blank before a text changes no word. -/
lemma Spaced.blank {ws : List (List Char)} {c : Char} {cs : List Char} (hc : isBlank c)
    (h : Spaced ws cs) : Spaced ws (c :: cs) := by
  cases h with
  | nil hgap => exact .nil (List.forall_mem_cons.mpr ⟨hc, hgap⟩)
  | cons hgap hword hnext hrest =>
    exact .cons (List.forall_mem_cons.mpr ⟨hc, hgap⟩) hword hnext hrest

/-- What has been collected in reverse order is a word. -/
lemma isWord_reverse {before : List Char} (hne : before ≠ []) (h : ∀ c ∈ before, ¬ isBlank c) :
    IsWord before.reverse :=
  ⟨mt List.reverse_eq_nil_iff.mp hne, fun c hc => h c (List.mem_reverse.mp hc)⟩

/-- A text is written with the words that are found, the word that has begun among them. -/
lemma spaced_wordsAfter {before : List Char} (h : ∀ c ∈ before, ¬ isBlank c) (cs : List Char) :
    Spaced (wordsAfter before cs) (before.reverse ++ cs) := by
  have hgap : IsGap [] := List.forall_mem_nil _
  induction cs generalizing before with
  | nil =>
    cases before with
    | nil => exact .nil hgap
    | cons b before => exact .cons hgap (isWord_reverse nofun h) nofun (.nil hgap)
  | cons c cs ih =>
    rw [wordsAfter]
    split
    · rename_i hc
      have hrest : Spaced (wordsAfter [] cs) (c :: cs) := (ih (List.forall_mem_nil _)).blank hc
      cases before with
      | nil => exact hrest
      | cons b before =>
        exact .cons hgap (isWord_reverse nofun h) (fun _ hnext => Option.some.inj hnext ▸ hc) hrest
    · rename_i hc
      have hmore := ih (List.forall_mem_cons.mpr ⟨hc, h⟩)
      rwa [List.reverse_cons, List.append_assoc] at hmore

/-- All words together are those of some text. -/
lemma exists_spaced {ws : List (List Char)} (h : ∀ w ∈ ws, IsWord w) : ∃ cs, Spaced ws cs := by
  -- a blank before each word divides it from the one before it
  suffices hblank : ∃ cs, Spaced ws cs ∧ ∀ c ∈ cs.head?, isBlank c from hblank.imp fun _ => And.left
  have hgap : IsGap [' '] := fun c hc => List.mem_singleton.mp hc ▸ rfl
  induction ws with
  | nil => exact ⟨[' '], .nil hgap, fun c hc => Option.some.inj hc ▸ rfl⟩
  | cons w ws ih =>
    obtain ⟨hw, hws⟩ := List.forall_mem_cons.mp h
    obtain ⟨rest, hrest, hnext⟩ := ih hws
    exact ⟨[' '] ++ w ++ rest, .cons hgap hw hnext hrest, fun c hc => Option.some.inj hc ▸ rfl⟩

/-- A text is written with its words, and with no others. -/
theorem words_eq_iff {cs : List Char} {ws : List (List Char)} : words cs = ws ↔ Spaced ws cs := by
  constructor
  · rintro rfl
    exact spaced_wordsAfter (List.forall_mem_nil _) cs
  · exact Spaced.words_eq

end GridRows.Text
