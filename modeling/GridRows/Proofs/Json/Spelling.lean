import GridRows.Proofs.Json.Mapping
import GridRows.Proofs.Json.Numerals
import Mathlib.Data.List.DropRight

/-!
# Values with their spelling

A value is read as one that is written, of which a number keeps its literal (`Reader.value_follows`).
-/

namespace GridRows.Json

/-- A number with its spelling. -/
structure Numeral where
  literal : Literal
  number : Number
  reads : literal.toNumber? = some number

/-- A value as it is written, where a number has its spelling. -/
inductive Written where
  | numeral (n : Numeral)
  | other (v : Value)

/-- The value without the spelling. -/
def Written.value : Written → Value
  | .numeral n => .number n.number
  | .other v => v

namespace Reader

/-- Takes a number with its spelling. -/
def numeral : Reader Numeral := do
  let l ← literal
  match h : l.toNumber? with
  | some n => return ⟨l, n, h⟩
  | none => throw .malformed

/-- A number is what its spelling is worth. -/
lemma number_follows : number = Numeral.number <$> numeral := by
  refine bind_follows fun l => ?_
  split
  · rename_i n h
    split
    · rename_i n' h'
      cases h.symm.trans h'
      rfl
    · rename_i h'
      cases h.symm.trans h'
  · rename_i h
    split
    · rename_i n' h'
      cases h.symm.trans h'
    · rfl

instance (cs : List Char) : Decidable (LeadsNumber cs) :=
  match cs with
  | [] => isFalse nofun
  | c :: rest =>
    decidable_of_iff (c = '-' ∨ c.isDigit)
      ⟨fun h => ⟨c, rest, rfl, h⟩, fun ⟨_, _, heq, h⟩ => (List.cons.inj heq).1 ▸ h⟩

/-- Takes a value that may be nested `depth` deep; a number keeps its spelling. -/
def written (depth : Nat) : Reader Written := do
  if LeadsNumber (← peek) then .numeral <$> numeral else .other <$> value depth

/-- Looking ahead passes over the blanks and takes nothing else. -/
lemma run_peek_bind {α : Type} (k : List Char → Reader α) (cs : List Char) :
    StateT.run (peek >>= k) cs =
      StateT.run (k (cs.dropWhile isBlank)) (cs.dropWhile isBlank) := rfl

/-- What has been looked at can be looked at again. -/
lemma peek_congr {α : Type} {k k' : List Char → Reader α}
    (h : ∀ cs, cs.dropWhile isBlank = cs → StateT.run (k cs) cs = StateT.run (k' cs) cs) :
    peek >>= k = peek >>= k' := by
  refine StateT.ext fun cs => ?_
  rw [run_peek_bind, run_peek_bind]
  exact h _ (List.dropWhile_idempotent _ cs)

/-- The first character tells whether a value is a number. -/
lemma valueWith_eq (array object : Reader Value) :
    valueWith array object = (do
      if LeadsNumber (← peek) then .number <$> number else valueWith array object : Reader Value) := by
  refine peek_congr fun cs hcs => ?_
  by_cases hleads : LeadsNumber cs
  · rw [if_pos hleads]
    obtain ⟨c, rest, rfl, hc⟩ := hleads
    split
    case h_1 heq => cases heq
    case h_8 heq =>
      cases heq
      rw [if_pos hc]
    -- every other case asks for a head that no number has
    all_goals
      rename_i heq
      cases heq
      exact absurd hc (by decide)
  · rw [if_neg hleads]
    unfold valueWith
    rw [run_peek_bind, hcs]

/-- A value is what was written, without the spelling. -/
lemma value_follows (depth : Nat) : value depth = Written.value <$> written depth := by
  have hvalue (array object : Reader Value) (h : value depth = valueWith array object) :
      value depth = Written.value <$> written depth := by
    rw [h, valueWith_eq, written]
    refine bind_follows fun cs => ?_
    split
    · rw [number_follows, ← comp_map, ← comp_map]
      rfl
    · rw [← comp_map, ← h]
      exact (id_map _).symm
  cases depth with
  | zero => exact hvalue _ _ rfl
  | succ depth => exact hvalue _ _ rfl

end Reader

end GridRows.Json
