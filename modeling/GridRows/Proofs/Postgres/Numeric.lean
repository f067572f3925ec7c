import GridRows.Postgres.Numeric
import GridRows.Proofs.Number.Decimal
import Mathlib.Algebra.BigOperators.Group.Finset.Basic
import Mathlib.Algebra.Order.Floor.Semifield
import Mathlib.Data.Rat.Floor

/-!
# Decoded numeric values

The text that a numeric value is spelled as, against the sum that its digits stand for.  The digits, with
zeros put where there are none, make up all places down to the last group that is looked at
(`Numeric.wholeDigits_append_fractionDigits`), and what they leave out is worth less than one there
(`worth_take`).  So the text spells the value cut off behind its scale (`Numeric.natOfDigits_text`), and
it is read back as that.

The main statement is `decodeNumeric_correct`, for all bytes.
-/

namespace GridRows.Postgres

open Json (Value)
open Number (Binary Decimal Double isDigit_toDigits isDigit_zeros natOfDigits natOfDigits_append
  natOfDigits_take natOfDigits_toDigits natOfDigits_zeros signed)

/-! ## Digits of base ten thousand -/

/-- What digits are worth, the first one that base to the power of the weight. -/
def worth : List Nat → Int → ℚ
  | [], _ => 0
  | d :: ds, weight => d * 10000 ^ weight + worth ds (weight - 1)

/-- What digits are worth is the sum of what each is worth at its place. -/
lemma worth_eq_sum (ds : List Nat) (weight : Int) :
    worth ds weight = ∑ i ∈ Finset.range ds.length, (ds.getD i 0 : ℚ) * 10000 ^ (weight - i) := by
  induction ds generalizing weight with
  | nil => rfl
  | cons d ds ih =>
    rw [worth, ih, List.length_cons, Finset.sum_range_succ', add_comm]
    congr 1
    · refine Finset.sum_congr rfl fun i _ => ?_
      rw [List.getD_cons_succ]
      congr 2
      push_cast
      ring
    · simp

/-- Zeros in front only move the digits behind them to lower places. -/
lemma worth_zeros_append (n : Nat) (ds : List Nat) (weight : Int) :
    worth (List.replicate n 0 ++ ds) weight = worth ds (weight - n) := by
  induction n generalizing weight with
  | zero => simp
  | succ n ih =>
    rw [List.replicate_succ, List.cons_append, worth, ih]
    push_cast
    rw [zero_mul, zero_add]
    congr 1
    ring

/-- A place more on the weight is worth a factor of the base. -/
lemma worth_add (ds : List Nat) (weight : Int) (n : Nat) :
    worth ds (weight + n) = worth ds weight * 10000 ^ n := by
  induction ds generalizing weight with
  | nil => simp [worth]
  | cons d ds ih =>
    rw [worth, worth, add_sub_right_comm, ih, zpow_add₀ (by norm_num), zpow_natCast]
    ring

/-- Digits are worth no less than zero. -/
lemma worth_nonneg (ds : List Nat) (weight : Int) : 0 ≤ worth ds weight := by
  induction ds generalizing weight with
  | nil => exact le_rfl
  | cons d ds ih =>
    have := ih (weight - 1)
    rw [worth]
    positivity

/-- All digits together are worth less than one in the place before them. -/
lemma worth_lt {ds : List Nat} (h : ∀ d ∈ ds, d < 10000) (weight : Int) :
    worth ds weight < 10000 ^ (weight + 1) := by
  induction ds generalizing weight with
  | nil =>
    rw [worth]
    positivity
  | cons d ds ih =>
    have hds := ih (fun e he => h e (List.mem_cons_of_mem _ he)) (weight - 1)
    have hd : (d : ℚ) + 1 ≤ 10000 := by exact_mod_cast h d List.mem_cons_self
    have hpos : (0 : ℚ) < 10000 ^ weight := by positivity
    rw [sub_add_cancel] at hds
    rw [worth, zpow_add₀ (by norm_num), zpow_one]
    nlinarith

/-- The first digits, with zeros where there are none, leave less than one in the last of their places. -/
lemma worth_take {ds : List Nat} (h : ∀ d ∈ ds, d < 10000) (weight : Int) (n : Nat) :
    worth ((List.range n).map (ds.getD · 0)) weight ≤ worth ds weight ∧
      worth ds weight <
        worth ((List.range n).map (ds.getD · 0)) weight + 10000 ^ (weight + 1 - n) := by
  -- the first place is taken off with its digit, so the weight goes down along with the count
  induction n generalizing ds weight with
  | zero =>
    refine ⟨worth_nonneg ds weight, ?_⟩
    simpa [worth] using worth_lt h weight
  | succ n ih =>
    cases ds with
    | nil =>
      have hzeros : (List.range (n + 1)).map (([] : List Nat).getD · 0) =
          List.replicate (n + 1) 0 ++ [] := by
        simp
      rw [hzeros, worth_zeros_append]
      refine ⟨le_rfl, ?_⟩
      simp only [worth, zero_add]
      positivity
    | cons d ds =>
      obtain ⟨hle, hlt⟩ := ih (fun e he => h e (List.mem_cons_of_mem _ he)) (weight - 1)
      have hexponent : weight - 1 + 1 - (n : Int) = weight + 1 - (n + 1 : Nat) := by
        push_cast
        ring
      have hmap : (List.range (n + 1)).map ((d :: ds).getD · 0) =
          d :: (List.range n).map (ds.getD · 0) := by
        rw [List.range_succ_eq_map, List.map_cons, List.map_map]
        rfl
      rw [hexponent] at hlt
      rw [hmap, worth, worth]
      exact ⟨by linarith, by linarith⟩

/-! ## Their decimal text -/

namespace Numeric

/-- The text of a group is made of digits. -/
lemma isDigit_group {digit : Nat} : ∀ c ∈ group digit, c.isDigit := by
  intro c hc
  rcases List.mem_append.mp hc with hc | hc
  · exact isDigit_zeros _ c hc
  · exact isDigit_toDigits _ c hc

/-- The text of groups is made of digits. -/
lemma isDigit_groups {ds : List Nat} : ∀ c ∈ ds.flatMap group, c.isDigit := by
  intro c hc
  obtain ⟨digit, -, hc⟩ := List.mem_flatMap.mp hc
  exact isDigit_group c hc

/-- A group is written with four digits at least. -/
lemma length_group_le (digit : Nat) : 4 ≤ (group digit).length := by
  rw [group, List.length_append, List.length_replicate]
  omega

/-- A group below ten thousand is written with four digits. -/
lemma length_group {digit : Nat} (h : digit < 10000) : (group digit).length = 4 := by
  have hle : (Nat.toDigits 10 digit).length ≤ 4 :=
    (Nat.length_toDigits_le_iff (by decide) (by decide)).mpr h
  rw [group, List.length_append, List.length_replicate]
  omega

/-- The text of a group spells its digit. -/
lemma natOfDigits_group (digit : Nat) : natOfDigits (group digit) = digit := by
  rw [group, natOfDigits_append, natOfDigits_zeros, natOfDigits_toDigits]
  omega

/-- Groups are written with four digits each at least. -/
lemma length_groups_le (ds : List Nat) : 4 * ds.length ≤ (ds.flatMap group).length := by
  induction ds with
  | nil => exact Nat.zero_le _
  | cons d ds ih =>
    have := length_group_le d
    rw [List.flatMap_cons, List.length_append, List.length_cons]
    omega

/-- Groups below ten thousand are written with four digits each. -/
lemma length_groups {ds : List Nat} (h : ∀ d ∈ ds, d < 10000) :
    (ds.flatMap group).length = 4 * ds.length := by
  induction ds with
  | nil => rfl
  | cons d ds ih =>
    have hds := ih fun e he => h e (List.mem_cons_of_mem _ he)
    have hd := length_group (h d List.mem_cons_self)
    rw [List.flatMap_cons, List.length_append, List.length_cons]
    omega

/-- The groups of digits spell what the digits are worth if the last one counts ones. -/
lemma natOfDigits_groups {ds : List Nat} (h : ∀ d ∈ ds, d < 10000) :
    (natOfDigits (ds.flatMap group) : ℚ) = worth ds (ds.length - 1) := by
  induction ds with
  | nil => rfl
  | cons d ds ih =>
    have hds : ∀ e ∈ ds, e < 10000 := fun e he => h e (List.mem_cons_of_mem _ he)
    have hpow : (10 : ℚ) ^ (4 * ds.length) = 10000 ^ ds.length := by
      rw [pow_mul]
      norm_num
    rw [List.flatMap_cons, natOfDigits_append, natOfDigits_group, length_groups hds, worth,
      List.length_cons]
    push_cast
    rw [ih hds, hpow, add_sub_cancel_right, zpow_natCast]

/-! ## Digits by place -/

/-- The first elements of a list, with zeros where there are none. -/
lemma take_zeros (ds : List Nat) {n m : Nat} (h : n ≤ ds.length + m) :
    (ds ++ List.replicate m 0).take n = (List.range n).map (ds.getD · 0) := by
  refine List.ext_getElem? fun i => ?_
  rw [List.getElem?_take, List.getElem?_map, List.getElem?_append]
  grind

/-- The digits with zeros before them down from the place of ones, if they begin behind it. -/
def padded (n : Numeric) : List Nat := List.replicate (-1 - n.weight).toNat 0 ++ n.digits

/-- How many places stand before the point. -/
def places (n : Numeric) : Nat := (n.weight + 1).toNat

/-- Before the point stand the first places, with zeros where there are no digits. -/
lemma wholeDigits_eq (n : Numeric) :
    n.wholeDigits = (List.range n.places).map (n.padded.getD · 0) := by
  rw [← take_zeros n.padded (m := n.places - n.digits.length) (by simp [padded]; omega)]
  unfold wholeDigits padded places
  rcases lt_or_ge n.weight (-1) with h | h
  · have hplaces : (n.weight + 1).toNat = 0 := by omega
    simp [hplaces]
  · have hzeros : (-1 - n.weight).toNat = 0 := by omega
    rw [hzeros, List.replicate_zero, List.nil_append, List.take_append, List.take_replicate,
      Nat.min_self]

/-- Behind the point stand the places that the scale reaches, with zeros where there are no digits. -/
lemma fractionDigits_eq (n : Numeric) :
    n.fractionDigits =
      (List.range (n.scale / 4 + 1)).map fun i => n.padded.getD (n.places + i) 0 := by
  have hdrop : List.replicate (-1 - n.weight).toNat 0 ++ n.digits.drop (n.weight + 1).toNat =
      n.padded.drop n.places := by
    unfold padded places
    rcases lt_or_ge n.weight (-1) with h | h
    · have hplaces : (n.weight + 1).toNat = 0 := by omega
      simp [hplaces]
    · have hzeros : (-1 - n.weight).toNat = 0 := by omega
      simp [hzeros]
  unfold fractionDigits
  dsimp only
  rw [hdrop, take_zeros _ (Nat.le_add_left _ _)]
  refine List.map_congr_left fun i _ => ?_
  rw [List.getD_eq_getElem?_getD, List.getD_eq_getElem?_getD, List.getElem?_drop]

/-- The places before the point, and behind it those that are looked at, one after the other. -/
lemma wholeDigits_append_fractionDigits (n : Numeric) :
    n.wholeDigits ++ n.fractionDigits =
      (List.range (n.places + (n.scale / 4 + 1))).map (n.padded.getD · 0) := by
  rw [wholeDigits_eq, fractionDigits_eq, List.range_add (n := n.places), List.map_append, List.map_map]
  rfl

/-- The value of a numeric without its sign. -/
def magnitude (n : Numeric) : ℚ := worth n.digits n.weight

/-- Zeros before the digits do not change the value. -/
lemma worth_padded (n : Numeric) : worth n.padded (n.places - 1) = n.magnitude := by
  rw [padded, worth_zeros_append, magnitude]
  congr 1
  unfold places
  omega

/-! ## The decimal text -/

/-- Behind the point stand as many digits as the scale says. -/
lemma length_fractionText (n : Numeric) : n.fractionText.length = n.scale := by
  have h := length_groups_le n.fractionDigits
  have hlength : n.fractionDigits.length = n.scale / 4 + 1 := by
    rw [fractionDigits_eq, List.length_map, List.length_range]
  rw [fractionText, List.length_take]
  omega

/-- The text behind the point is made of digits. -/
lemma isDigit_fractionText (n : Numeric) : ∀ c ∈ n.fractionText, c.isDigit := fun c hc =>
  isDigit_groups c (List.mem_of_mem_take hc)

/-- The text before the point is made of digits. -/
lemma isDigit_wholeText (n : Numeric) : ∀ c ∈ n.wholeText, c.isDigit := by
  intro c hc
  unfold wholeText at hc
  split at hc
  · rw [List.mem_singleton.mp hc]
    rfl
  · rcases List.mem_append.mp hc with hc | hc
    · exact isDigit_toDigits _ c hc
    · exact isDigit_groups c hc

/-- There is a digit before the point. -/
lemma wholeText_ne_nil (n : Numeric) : n.wholeText ≠ [] := by
  unfold wholeText
  split
  · exact List.cons_ne_nil _ _
  · exact List.append_ne_nil_of_left_ne_nil Nat.toDigits_ne_nil _

/-- That zeros are left out in front does not matter. -/
lemma natOfDigits_wholeText (n : Numeric) :
    natOfDigits n.wholeText = natOfDigits (n.wholeDigits.flatMap group) := by
  unfold wholeText
  split
  · rename_i h
    rw [h]
    rfl
  · rename_i first rest h
    rw [h, List.flatMap_cons, natOfDigits_append, natOfDigits_append, natOfDigits_group,
      natOfDigits_toDigits]

/-- Zeros before the digits are digits of base ten thousand too. -/
lemma lt_of_mem_padded {n : Numeric} (h : ∀ d ∈ n.digits, d < 10000) :
    ∀ d ∈ n.padded, d < 10000 := by
  intro d hd
  rcases List.mem_append.mp hd with hd | hd
  · rw [List.eq_of_mem_replicate hd]
    decide
  · exact h d hd

/-- At every place stands a digit of base ten thousand. -/
lemma padded_getD_lt {n : Numeric} (h : ∀ d ∈ n.digits, d < 10000) (i : Nat) :
    n.padded.getD i 0 < 10000 := by
  rw [List.getD_eq_getElem?_getD]
  cases hi : n.padded[i]? with
  | none => decide
  | some d => exact lt_of_mem_padded h d (List.mem_of_getElem? hi)

/-- The places that are looked at spell the value, cut off behind the last of them. -/
lemma natOfDigits_places {n : Numeric} (h : ∀ d ∈ n.digits, d < 10000) :
    natOfDigits ((n.wholeDigits ++ n.fractionDigits).flatMap group) =
      ⌊n.magnitude * 10000 ^ (n.scale / 4 + 1)⌋₊ := by
  generalize hcount : n.scale / 4 + 1 = count
  generalize hds : n.wholeDigits ++ n.fractionDigits = ds
  rw [wholeDigits_append_fractionDigits, hcount] at hds
  have hlt : ∀ d ∈ ds, d < 10000 := by
    intro d hd
    rw [← hds] at hd
    obtain ⟨i, -, rfl⟩ := List.mem_map.mp hd
    exact padded_getD_lt h i
  have hlength : ds.length = n.places + count := by
    rw [← hds, List.length_map, List.length_range]
  have hworth : (natOfDigits (ds.flatMap group) : ℚ) = worth ds (n.places - 1) * 10000 ^ count := by
    rw [natOfDigits_groups hlt, hlength, ← worth_add]
    congr 1
    push_cast
    ring
  have hpos : (0 : ℚ) < 10000 ^ count := by positivity
  obtain ⟨hle, hup⟩ := worth_take (lt_of_mem_padded h) (n.places - 1) (n.places + count)
  have hrest : (10000 : ℚ) ^ ((n.places : Int) - 1 + 1 - (n.places + count : Nat)) =
      1 / 10000 ^ count := by
    rw [one_div, ← zpow_natCast, ← zpow_neg]
    congr 1
    push_cast
    ring
  rw [hds, worth_padded, hrest] at hup
  rw [hds, worth_padded] at hle
  refine ((Nat.floor_eq_iff (mul_nonneg (worth_nonneg _ _) hpos.le)).mpr ⟨?_, ?_⟩).symm
  · rw [hworth]
    exact mul_le_mul_of_nonneg_right hle hpos.le
  · rw [hworth]
    calc n.magnitude * 10000 ^ count
        < (worth ds (n.places - 1) + 1 / 10000 ^ count) * 10000 ^ count :=
          mul_lt_mul_of_pos_right hup hpos
      _ = worth ds (n.places - 1) * 10000 ^ count + 1 := by field_simp

/-- The digits of the text spell the value, cut off behind the scale. -/
lemma natOfDigits_text {n : Numeric} (h : ∀ d ∈ n.digits, d < 10000) :
    natOfDigits (n.wholeText ++ n.fractionText) = ⌊n.magnitude * 10 ^ n.scale⌋₊ := by
  have hlength : (n.fractionDigits.flatMap group).length = 4 * (n.scale / 4 + 1) := by
    rw [fractionDigits_eq, length_groups, List.length_map, List.length_range]
    intro d hd
    obtain ⟨i, -, rfl⟩ := List.mem_map.mp hd
    exact padded_getD_lt h _
  have htake : n.wholeDigits.flatMap group ++ n.fractionText =
      ((n.wholeDigits ++ n.fractionDigits).flatMap group).take
        ((n.wholeDigits.flatMap group).length + n.scale) := by
    rw [List.flatMap_append, List.take_length_add_append, fractionText]
  have hrest : ((n.wholeDigits ++ n.fractionDigits).flatMap group).length -
      ((n.wholeDigits.flatMap group).length + n.scale) = 4 * (n.scale / 4 + 1) - n.scale := by
    rw [List.flatMap_append, List.length_append, hlength]
    omega
  rw [natOfDigits_append, natOfDigits_wholeText, ← natOfDigits_append, htake,
    natOfDigits_take isDigit_groups, natOfDigits_places h, hrest, ← Nat.floor_div_natCast]
  congr 1
  -- the groups reach to a multiple of four places, of which the scale keeps the first
  have hpow : (10000 : ℚ) ^ (n.scale / 4 + 1) =
      10 ^ n.scale * 10 ^ (4 * (n.scale / 4 + 1) - n.scale) := by
    rw [← pow_add, Nat.add_sub_cancel' (by omega), pow_mul]
    norm_num
  rw [hpow]
  push_cast
  field_simp

/-- What the text of the value reads as. -/
def decimal (n : Numeric) : Decimal :=
  ⟨n.negative, natOfDigits (n.wholeText ++ n.fractionText), -(n.scale : Int)⟩

/-- The text is read as the decimal that its digits and its sign make up. -/
lemma ofChars?_text (n : Numeric) : Decimal.ofChars? n.text = some n.decimal := by
  have hexponent : Decimal.exponentOfChars? [] = some 0 := rfl
  unfold text decimal
  by_cases h : n.scale = 0
  · have hf : n.fractionText = [] := by rw [fractionText, h, List.take_zero]
    have hread := Decimal.ofChars?_whole n.negative n.isDigit_wholeText
      n.wholeText_ne_nil hexponent
    rw [List.append_nil] at hread
    rw [if_pos h, List.append_nil, hread, hf, List.append_nil, h]
    rfl
  · have hread := Decimal.ofChars?_fraction n.negative n.isDigit_wholeText
      n.wholeText_ne_nil n.isDigit_fractionText hexponent
    rw [List.append_nil, zero_sub] at hread
    rw [if_neg h, List.append_assoc, hread, length_fractionText]

/-- The value without its sign, cut off behind the scale. -/
def truncated (n : Numeric) : ℚ := ⌊n.magnitude * 10 ^ n.scale⌋₊ / 10 ^ n.scale

/-- The decimal that is read is worth the value, cut off behind its scale. -/
lemma magnitude_decimal {n : Numeric} (h : ∀ d ∈ n.digits, d < 10000) :
    n.decimal.magnitude = n.truncated := by
  rw [Decimal.magnitude, decimal, natOfDigits_text h, truncated, zpow_neg, zpow_natCast,
    div_eq_mul_inv]

/-! ## Writing the digits one by one -/

/-- The digit at a place, counted from that of the weight; zero where there is none. -/
def digitAt (n : Numeric) (place : Int) : Nat :=
  if 0 ≤ place then n.digits.getD place.toNat 0 else 0

/-- A place of the padded digits is a place of the digits, counted from the weight. -/
lemma padded_getD (n : Numeric) (i : Nat) :
    n.padded.getD i 0 = n.digitAt (i - (-1 - n.weight).toNat) := by
  unfold padded digitAt
  generalize (-1 - n.weight).toNat = zeros
  rw [List.getD_eq_getElem?_getD, List.getElem?_append, List.length_replicate]
  split_ifs with hlt hle hle
  · omega
  · rw [List.getElem?_replicate, if_pos hlt]
    rfl
  · have hplace : ((i : Int) - zeros).toNat = i - zeros := by omega
    rw [hplace, List.getD_eq_getElem?_getD]
  · omega

/-- The places behind the point follow those down to the place of ones. -/
lemma padded_getD_places (n : Numeric) (i : Nat) :
    n.padded.getD (n.places + i) 0 = n.digitAt (n.weight + 1 + i) := by
  rw [padded_getD]
  congr 1
  unfold places
  omega

/-- The digits before the point: the first as it is, then a group for each place down to that of ones. -/
theorem wholeText_eq (n : Numeric) :
    n.wholeText =
      if n.weight < 0 then ['0']
      else Nat.toDigits 10 (n.digitAt 0) ++
        (List.range n.weight.toNat).flatMap fun i : Nat => group (n.digitAt (i + 1)) := by
  unfold wholeText
  rw [wholeDigits_eq]
  split_ifs with h
  · have hplaces : n.places = 0 := by
      unfold places
      omega
    rw [hplaces]
    rfl
  · have hplaces : n.places = n.weight.toNat + 1 := by
      unfold places
      omega
    have hpad : ((-1 - n.weight).toNat : Int) = 0 := by omega
    rw [hplaces, List.range_succ_eq_map, List.map_cons, List.map_map]
    simp only [padded_getD, hpad, sub_zero, Nat.cast_zero, List.flatMap_map, Function.comp_apply,
      Nat.cast_succ]

/-- The fraction after so many steps, each of which writes the digit at the next place. -/
def fractionAfter (n : Numeric) : Nat → List Char
  | 0 => []
  | k + 1 => n.fractionAfter k ++ group (n.digitAt (n.weight + 1 + k))

/-- The fraction is written with the groups of the places behind the point. -/
lemma fractionAfter_eq (n : Numeric) (k : Nat) :
    n.fractionAfter k =
      ((List.range k).map fun i => n.padded.getD (n.places + i) 0).flatMap group := by
  induction k with
  | zero => rfl
  | succ k ih =>
    rw [fractionAfter, ih, List.range_succ, List.map_append, List.flatMap_append, List.map_singleton,
      List.flatMap_singleton, padded_getD_places]

/-- Each step adds to what is there. -/
lemma fractionAfter_prefix (n : Numeric) {j k : Nat} (h : j ≤ k) :
    n.fractionAfter j <+: n.fractionAfter k := by
  induction k, h using Nat.le_induction with
  | base => exact List.prefix_rfl
  | succ k _ ih => exact ih.trans (List.prefix_append _ _)

/-- The steps end as soon as there is enough, whatever the header, and what is there is the fraction. -/
lemma fractionAfter_ends (n : Numeric) :
    ∃ steps ≤ n.scale / 4 + 1, (∀ k < steps, (n.fractionAfter k).length < n.scale) ∧
      n.scale ≤ (n.fractionAfter steps).length ∧
      n.fractionText = (n.fractionAfter steps).take n.scale := by
  have henough : n.scale ≤ (n.fractionAfter (n.scale / 4 + 1)).length := by
    have h := length_groups_le
      ((List.range (n.scale / 4 + 1)).map fun i => n.padded.getD (n.places + i) 0)
    rw [List.length_map, List.length_range, ← fractionAfter_eq] at h
    omega
  have hex : ∃ k, n.scale ≤ (n.fractionAfter k).length := ⟨_, henough⟩
  have hsteps := Nat.find_spec hex
  have hle : Nat.find hex ≤ n.scale / 4 + 1 := Nat.find_min' hex henough
  refine ⟨Nat.find hex, hle, fun k hk => Nat.not_le.mp (Nat.find_min hex hk), hsteps, ?_⟩
  obtain ⟨rest, hrest⟩ := n.fractionAfter_prefix hle
  rw [fractionText, fractionDigits_eq, ← fractionAfter_eq, ← hrest,
    List.take_append_of_le_length hsteps]

/-! ## The number -/

/-- The whole number of a value without digits behind the point. -/
def whole (n : Numeric) : Int :=
  if n.negative then -(natOfDigits n.wholeText : Int) else natOfDigits n.wholeText

/-- Without a scale the integer that is spelled is the value cut off at the point. -/
lemma whole_eq {n : Numeric} (h : ∀ d ∈ n.digits, d < 10000) (hs : n.scale = 0) :
    (n.whole : ℚ) = signed n.negative n.truncated := by
  have hf : n.fractionText = [] := by rw [fractionText, hs, List.take_zero]
  have htext := natOfDigits_text h
  rw [hf, List.append_nil, hs] at htext
  rw [truncated, hs, ← htext, whole]
  cases n.negative <;> simp

/-- A signed word holds the whole number, or there is none to be had. -/
lemma toInteger?_cases {n : Numeric} (hs : n.scale = 0) :
    (∃ fits, n.toInteger? = some (.integer n.whole fits) ∧
      -0x8000000000000000 ≤ n.whole ∧ n.whole < 0x8000000000000000) ∨
    n.toInteger? = none ∧
      ¬ (-0x8000000000000000 ≤ n.whole ∧ n.whole < 0x8000000000000000) := by
  have hw : n.toInteger? =
      if n.whole < 0x8000000000000000 then Json.Number.ofInt? n.whole else none := by
    unfold toInteger? whole
    rw [if_pos hs]
  rw [hw]
  by_cases hlt : n.whole < 0x8000000000000000
  · rw [if_pos hlt, Json.Number.ofInt?]
    by_cases hle : -0x8000000000000000 ≤ n.whole
    · have fits : Json.FitsWord n.whole := ⟨hle, by omega⟩
      exact .inl ⟨fits, dif_pos fits, hle, hlt⟩
    · exact .inr ⟨dif_neg fun fits => hle fits.1, fun h => hle h.1⟩
  · rw [if_neg hlt]
    exact .inr ⟨rfl, fun h => hlt h.2⟩

/-- The text is rounded correctly. -/
lemma toDouble?_rounds {n : Numeric} (h : ∀ d ∈ n.digits, d < 10000) :
    Binary.Rounds n.negative n.truncated n.toDouble? := by
  have hrounds := n.decimal.toBinary?_rounds (f := Number.Format.double) (by decide) (by decide)
  rw [magnitude_decimal h] at hrounds
  have hd : n.toDouble? = n.decimal.toBinary? := by
    rw [toDouble?, ofChars?_text]
    rfl
  rw [hd]
  exact hrounds

end Numeric

/-! ## Words -/

/-- The word at a place, the high byte first; missing bytes count as zero. -/
def wordAt (bytes : List UInt8) (i : Nat) : Nat :=
  256 * (bytes.getD (2 * i) 0).toNat + (bytes.getD (2 * i + 1) 0).toNat

/-- The words of bytes stand at the even places. -/
lemma words16_eq (bytes : List UInt8) :
    words16 bytes = (List.range (bytes.length / 2)).map (wordAt bytes) := by
  fun_induction words16 bytes with
  | case1 high low rest ih =>
    have hlength : (high :: low :: rest).length / 2 = rest.length / 2 + 1 := by
      simp only [List.length_cons]
      omega
    rw [hlength, List.range_succ_eq_map, List.map_cons, List.map_map, ih]
    rfl
  | case2 bytes h =>
    have hlength : bytes.length / 2 = 0 := by
      rcases bytes with - | ⟨b, - | ⟨c, rest⟩⟩
      · rfl
      · simp
      · exact absurd rfl (h b c rest)
    rw [hlength]
    rfl

/-- The numeric value that bytes stand for. -/
def Numeric.ofBytes (bytes : List UInt8) : Numeric where
  negative := wordAt bytes 2 = 0x4000
  weight := signed16 (wordAt bytes 1)
  scale := wordAt bytes 3
  digits := (List.range (wordAt bytes 0)).map fun i => wordAt bytes (4 + i)

/-- A header has four words; the digits are looked for behind it unless it marks no number. -/
lemma decodeNumeric_eq (bytes : List UInt8) :
    decodeNumeric bytes =
      if bytes.length < 8 then none
      else if wordAt bytes 2 / 0x4000 = 3 then some .null
      else if bytes.length < 8 + 2 * wordAt bytes 0 then none
      else some (Numeric.ofBytes bytes).toJson := by
  unfold decodeNumeric
  rw [words16_eq]
  by_cases h : bytes.length < 8
  · rw [if_pos h]
    have hlength : ((List.range (bytes.length / 2)).map (wordAt bytes)).length < 4 := by
      rw [List.length_map, List.length_range]
      omega
    split
    · rename_i heq
      rw [heq] at hlength
      simp only [List.length_cons] at hlength
      omega
    · rfl
  · rw [if_neg h]
    -- with four words for the header, the words behind them are the digits
    obtain ⟨m, hm⟩ : ∃ m, bytes.length / 2 = 4 + m := ⟨bytes.length / 2 - 4, by omega⟩
    have hwords : (List.range (bytes.length / 2)).map (wordAt bytes) =
        wordAt bytes 0 :: wordAt bytes 1 :: wordAt bytes 2 :: wordAt bytes 3 ::
          (List.range m).map fun i => wordAt bytes (4 + i) := by
      rw [hm, List.range_add, List.map_append, List.map_map]
      rfl
    rw [hwords]
    dsimp only
    have hshort : ((List.range m).map fun i => wordAt bytes (4 + i)).length < wordAt bytes 0 ↔
        bytes.length < 8 + 2 * wordAt bytes 0 := by
      rw [List.length_map, List.length_range]
      omega
    simp only [hshort]
    split_ifs with hspecial hcut
    · rfl
    · rfl
    · have htake : ((List.range m).map fun i => wordAt bytes (4 + i)).take (wordAt bytes 0) =
          (List.range (wordAt bytes 0)).map fun i => wordAt bytes (4 + i) := by
        rw [← List.map_take, List.take_range, Nat.min_eq_left (by omega)]
      rw [htake]
      rfl

section Decoded

variable (bytes : List UInt8)

/--
Bytes are refused exactly if they end before the head does, or before the digits of a finite value do.
-/
lemma decodeNumeric_eq_none :
    decodeNumeric bytes = none ↔ bytes.length < 8 ∨
      wordAt bytes 2 / 0x4000 ≠ 3 ∧ bytes.length < 8 + 2 * wordAt bytes 0 := by
  rw [decodeNumeric_eq]
  split_ifs with hheader hspecial hcut
  · exact iff_of_true rfl (.inl hheader)
  · exact iff_of_false nofun fun h => h.elim hheader fun h => h.1 hspecial
  · exact iff_of_true rfl (.inr ⟨hspecial, hcut⟩)
  · exact iff_of_false nofun fun h => h.elim hheader fun h => hcut h.2

variable {bytes}

/-- What is no finite value is shown as null, whatever digits follow. -/
lemma decodeNumeric_special (hlength : 8 ≤ bytes.length) (hspecial : wordAt bytes 2 / 0x4000 = 3) :
    decodeNumeric bytes = some .null := by
  rw [decodeNumeric_eq, if_neg (Nat.not_lt.mpr hlength), if_pos hspecial]

/-- A finite value with all its digits is shown as its number. -/
lemma decodeNumeric_number (hlength : 8 + 2 * wordAt bytes 0 ≤ bytes.length)
    (hsign : wordAt bytes 2 = 0 ∨ wordAt bytes 2 = 0x4000) :
    decodeNumeric bytes = some (Numeric.ofBytes bytes).toJson := by
  have hspecial : wordAt bytes 2 / 0x4000 ≠ 3 := by omega
  rw [decodeNumeric_eq, if_neg (by omega), if_neg hspecial, if_neg (by omega)]

/-- The value of bytes is the sum of what each digit is worth at its place. -/
lemma Numeric.magnitude_ofBytes (bytes : List UInt8) :
    (Numeric.ofBytes bytes).magnitude =
      ∑ i ∈ Finset.range (wordAt bytes 0),
        (wordAt bytes (4 + i) : ℚ) * 10000 ^ (signed16 (wordAt bytes 1) - i) := by
  rw [magnitude, worth_eq_sum]
  simp only [ofBytes, List.length_map, List.length_range]
  refine Finset.sum_congr rfl fun i hi => ?_
  rw [List.getD_eq_getElem?_getD, List.getElem?_map,
    List.getElem?_range (Finset.mem_range.mp hi)]
  rfl

end Decoded

/--
Decoding fails exactly if the header, or a digit of a number, is cut short, and a value beside the
numbers is null whatever follows its header.  For every header the fraction is written in finitely many
steps, and these write what the text has.  For digits below ten thousand and one of the two signs, the
text has as many digits behind the point as the scale says, and it spells the sum of the digits, each
worth its place, cut off behind them.  Without digits behind the point, what a signed word holds is that
whole number.  Everything else is the binary number nearest to the text, or null beyond the largest one.
-/
theorem decodeNumeric_correct (bytes : List UInt8) :
    let count := wordAt bytes 0
    let weight := signed16 (wordAt bytes 1)
    let sign := wordAt bytes 2
    let scale := wordAt bytes 3
    let n := Numeric.ofBytes bytes
    (decodeNumeric bytes = none ↔
      bytes.length < 8 ∨ sign / 0x4000 ≠ 3 ∧ bytes.length < 8 + 2 * count) ∧
    (8 ≤ bytes.length → sign / 0x4000 = 3 → decodeNumeric bytes = some .null) ∧
    (∃ steps ≤ scale / 4 + 1, (∀ k < steps, (n.fractionAfter k).length < scale) ∧
      scale ≤ (n.fractionAfter steps).length ∧
      n.fractionText = (n.fractionAfter steps).take scale) ∧
    (8 + 2 * count ≤ bytes.length → sign = 0 ∨ sign = 0x4000 →
      (∀ i < count, wordAt bytes (4 + i) < 10000) →
      let negative : Bool := sign = 0x4000
      let sum : ℚ := ∑ i ∈ Finset.range count, wordAt bytes (4 + i) * 10000 ^ (weight - i)
      let value : ℚ := signed negative (⌊sum * 10 ^ scale⌋₊ / 10 ^ scale)
      let isWord := -2 ^ 63 ≤ value ∧ value < 2 ^ 63
      decodeNumeric bytes = some n.toJson ∧
      n.text = (if negative then ['-'] else []) ++ n.wholeText ++
        (if scale = 0 then [] else '.' :: n.fractionText) ∧
      n.wholeText ≠ [] ∧ (∀ c ∈ n.wholeText ++ n.fractionText, c.isDigit) ∧
      n.fractionText.length = scale ∧
      (∃ d, Decimal.ofChars? n.text = some d ∧ d.negative = negative ∧ d.value = value) ∧
      (scale = 0 → isWord →
        ∃ (v : ℤ) (fits : Json.FitsWord v), (v : ℚ) = value ∧ n.toJson = .number (.integer v fits)) ∧
      (¬ (scale = 0 ∧ isWord) → ∃ x : Option Double,
        Binary.Rounds negative (⌊sum * 10 ^ scale⌋₊ / 10 ^ scale) x ∧
        n.toJson = (x.map fun x => Value.number (.float x)).getD .null)) := by
  intro count weight sign scale n
  refine ⟨decodeNumeric_eq_none bytes, decodeNumeric_special, n.fractionAfter_ends, ?_⟩
  intro hlength hsign hdigits negative sum value isWord
  have hlt : ∀ d ∈ n.digits, d < 10000 := by
    intro d hd
    obtain ⟨i, hi, rfl⟩ := List.mem_map.mp hd
    exact hdigits i (List.mem_range.mp hi)
  have htruncated : n.truncated = ⌊sum * 10 ^ scale⌋₊ / 10 ^ scale := by
    rw [Numeric.truncated, Numeric.magnitude_ofBytes]
    rfl
  have hvalue : signed n.negative n.truncated = value := by
    rw [htruncated]
    rfl
  -- without a scale the number before the point is the value, so one fits a word if the other does
  have hword (hs : scale = 0) :
      (-0x8000000000000000 ≤ n.whole ∧ n.whole < 0x8000000000000000) ↔ isWord := by
    have hwhole : (n.whole : ℚ) = value := (Numeric.whole_eq hlt hs).trans hvalue
    simp only [isWord]
    rw [← hwhole]
    norm_num
    norm_cast
  refine ⟨decodeNumeric_number hlength hsign, rfl, n.wholeText_ne_nil, ?digits,
    n.length_fractionText, ⟨n.decimal, n.ofChars?_text, rfl, ?value⟩, ?whole, ?binary⟩
  case digits =>
    intro c hc
    rcases List.mem_append.mp hc with hc | hc
    · exact n.isDigit_wholeText c hc
    · exact n.isDigit_fractionText c hc
  case value =>
    rw [Decimal.value, Numeric.magnitude_decimal hlt]
    exact hvalue
  case whole =>
    intro hs hisWord
    rcases Numeric.toInteger?_cases (n := n) hs with ⟨fits, hn, -⟩ | ⟨-, hno⟩
    · refine ⟨n.whole, fits, (Numeric.whole_eq hlt hs).trans hvalue, ?_⟩
      rw [Numeric.toJson, hn]
      rfl
    · exact absurd ((hword hs).mpr hisWord) hno
  case binary =>
    intro hno
    -- beyond a word, and with digits behind the point, there is no integer to be shown
    have hinteger : n.toInteger? = none := by
      by_cases hs : scale = 0
      · rcases Numeric.toInteger?_cases (n := n) hs with ⟨-, -, hyes⟩ | ⟨hn, -⟩
        · exact absurd ⟨hs, (hword hs).mp hyes⟩ hno
        · exact hn
      · exact if_neg hs
    refine ⟨n.toDouble?, htruncated ▸ Numeric.toDouble?_rounds hlt, ?_⟩
    rw [Numeric.toJson, hinteger]
    cases n.toDouble? <;> rfl

/-- The value `-12345.6789`, of which three digits behind the point are to be shown. -/
def cutNumeric : List UInt8 := [0, 3, 0, 1, 0x40, 0, 0, 3, 0, 1, 0x09, 0x29, 0x1a, 0x85]

/-- The fourth digit is cut off, and the third is not rounded. -/
theorem decodeNumeric_correct_cut :
    (Numeric.ofBytes cutNumeric).text = "-12345.678".toList ∧
    (∃ d, Decimal.ofChars? "-12345.678".toList = some d ∧ d.negative = true) ∧
    ∃ x : Option Double,
      decodeNumeric cutNumeric = some ((x.map fun x => Value.number (.float x)).getD .null) := by
  have htext : (Numeric.ofBytes cutNumeric).text = "-12345.678".toList := by decide +kernel
  obtain ⟨-, -, -, hnumber⟩ := decodeNumeric_correct cutNumeric
  obtain ⟨hdecode, -, -, -, -, ⟨d, hread, hnegative, -⟩, -, hbinary⟩ :=
    hnumber (by decide) (.inr (by decide)) (by decide)
  obtain ⟨x, -, hx⟩ := hbinary fun h => absurd h.1 (by decide)
  exact ⟨htext, ⟨d, htext ▸ hread, hnegative⟩, x, hx ▸ hdecode⟩

end GridRows.Postgres
