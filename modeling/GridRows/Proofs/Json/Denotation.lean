import GridRows.Json.Number
import GridRows.Proofs.Number.Shortest

/-!
# What number texts denote

The text of a number, read as a decimal.  That of a whole number denotes it (`Number.denotes_integer`).
That of a binary number denotes its shortest decimal, whichever of the two forms is written
(`Number.denotes_float`), so it is rounded to the number again, and it denotes the number itself if that
is whole and the significands of the format reach it (`Number.denotes_whole`).
-/

namespace GridRows.Json

open GridRows.Number

/-- The text is a sign and a decimal of the given size. -/
def Denotes (cs : List Char) (negative : Bool) (q : ℚ) : Prop :=
  ∃ d, Decimal.ofChars? ((if negative then ['-'] else []) ++ cs) = some d ∧
    d.negative = negative ∧ d.magnitude = q

section Forms

variable {negative : Bool} {whole fraction tail : List Char} {exponent : Int}

/-- A whole part and an exponent denote the digits, moved by the exponent. -/
lemma Denotes.of_whole (hw : ∀ c ∈ whole, c.isDigit) (hne : whole ≠ [])
    (ht : Decimal.exponentOfChars? tail = some exponent) :
    Denotes (whole ++ tail) negative (natOfDigits whole * 10 ^ exponent) :=
  ⟨_, Decimal.ofChars?_whole negative hw hne ht, rfl, rfl⟩

/-- A fraction moves its digits behind the whole part by their number. -/
lemma Denotes.of_fraction (hw : ∀ c ∈ whole, c.isDigit) (hne : whole ≠ [])
    (hf : ∀ c ∈ fraction, c.isDigit) (ht : Decimal.exponentOfChars? tail = some exponent) :
    Denotes (whole ++ '.' :: (fraction ++ tail)) negative
      (natOfDigits (whole ++ fraction) * 10 ^ (exponent - fraction.length)) :=
  ⟨_, Decimal.ofChars?_fraction negative hw hne hf ht, rfl, rfl⟩

end Forms

/-! ## Whole numbers -/

/-- The digits of a natural number denote it. -/
lemma denotes_toDigits (negative : Bool) (n : Nat) : Denotes (Nat.toDigits 10 n) negative n := by
  have h : Denotes (Nat.toDigits 10 n ++ []) negative _ :=
    .of_whole (isDigit_toDigits n) Nat.toDigits_ne_nil rfl
  rwa [List.append_nil, natOfDigits_toDigits, zpow_zero, mul_one] at h

/-! ## Binary numbers -/

section Digits

variable {digits : List Char} (hd : ∀ c ∈ digits, c.isDigit)
include hd

/-- Digits behind zeros of a fraction are worth as much less as they stand further back. -/
lemma denotes_below (negative : Bool) (n : Nat) :
    Denotes (['0', '.'] ++ List.replicate n '0' ++ digits) negative
      (natOfDigits digits * 10 ^ (-(n : Int) - digits.length)) := by
  have hf : ∀ c ∈ List.replicate n '0' ++ digits, c.isDigit := fun c hc =>
    (List.mem_append.mp hc).elim (isDigit_zeros _ c) (hd c)
  have h : Denotes (['0'] ++ '.' :: (List.replicate n '0' ++ digits ++ [])) negative _ :=
    .of_fraction (isDigit_zeros 1) (by decide) hf (show Decimal.exponentOfChars? [] = some 0 from rfl)
  have hvalue : natOfDigits (['0'] ++ (List.replicate n '0' ++ digits)) = natOfDigits digits := by
    have hzero : natOfDigits ['0'] = 0 := rfl
    rw [natOfDigits_append, natOfDigits_append, natOfDigits_zeros, hzero, Nat.zero_mul,
      Nat.zero_mul, Nat.zero_add, Nat.zero_add]
  have hplaces : (0 : Int) - (List.replicate n '0' ++ digits).length = -n - digits.length := by
    rw [List.length_append, List.length_replicate]
    omega
  rwa [hvalue, hplaces, List.append_nil] at h

/-- All digits stand before the point, with zeros behind them. -/
lemma denotes_filled (negative : Bool) {n : Nat} (hn : 0 < n) (hle : digits.length ≤ n) :
    Denotes (digits ++ List.replicate (n - digits.length) '0' ++ ['.', '0']) negative
      (natOfDigits digits * 10 ^ (n - digits.length : Int)) := by
  have hw : ∀ c ∈ digits ++ List.replicate (n - digits.length) '0', c.isDigit := fun c hc =>
    (List.mem_append.mp hc).elim (hd c) (isDigit_zeros _ c)
  have hne : digits ++ List.replicate (n - digits.length) '0' ≠ [] := by
    rw [← List.length_pos_iff, List.length_append, List.length_replicate]
    omega
  have h : Denotes (digits ++ List.replicate (n - digits.length) '0' ++ '.' :: (['0'] ++ [])) negative
      _ :=
    .of_fraction hw hne (isDigit_zeros 1) (show Decimal.exponentOfChars? [] = some 0 from rfl)
  have hvalue : (natOfDigits (digits ++ List.replicate (n - digits.length) '0' ++ ['0']) : ℚ) *
      10 ^ ((0 : Int) - ['0'].length) = natOfDigits digits * 10 ^ (n - digits.length : Int) := by
    have hzero : natOfDigits ['0'] = 0 := rfl
    have hplaces : (n : Int) - digits.length = (n - digits.length : Nat) := by omega
    rw [natOfDigits_append, natOfDigits_append, natOfDigits_zeros, List.length_replicate, hzero,
      hplaces, zpow_natCast]
    push_cast
    norm_num
    ring
  rwa [hvalue] at h

/-- A point within the digits moves those behind it. -/
lemma denotes_split (negative : Bool) {n : Nat} (hn : 0 < n) (hlt : n < digits.length) :
    Denotes (digits.take n ++ '.' :: digits.drop n) negative
      (natOfDigits digits * 10 ^ (n - digits.length : Int)) := by
  have hne : digits.take n ≠ [] := by
    rw [← List.length_pos_iff, List.length_take]
    omega
  have h : Denotes (digits.take n ++ '.' :: (digits.drop n ++ [])) negative _ :=
    .of_fraction (fun c hc => hd c (List.mem_of_mem_take hc)) hne
      (fun c hc => hd c (List.mem_of_mem_drop hc)) (show Decimal.exponentOfChars? [] = some 0 from rfl)
  have hplaces : (0 : Int) - (digits.drop n).length = n - digits.length := by
    rw [List.length_drop]
    omega
  rwa [List.append_nil, List.take_append_drop, hplaces] at h

/-- Positional notation denotes the digits with the point at its place. -/
lemma denotes_positional (negative : Bool) (whole : Int) :
    Denotes (Number.positional digits whole) negative
      (natOfDigits digits * 10 ^ (whole - digits.length)) := by
  unfold Number.positional
  split
  · rename_i hwhole
    have h := denotes_below hd negative (-whole).toNat
    rwa [show -((-whole).toNat : Int) = whole by omega] at h
  · rename_i hwhole
    obtain ⟨n, rfl⟩ := Int.eq_ofNat_of_zero_le (Int.le_of_lt (Int.not_le.mp hwhole))
    have hn : 0 < n := by omega
    dsimp only
    rw [Int.toNat_natCast]
    rcases Nat.lt_or_ge n digits.length with hlt | hle
    · have hrest : (digits.drop n).isEmpty = false := by
        rw [List.isEmpty_eq_false_iff, ne_eq, List.drop_eq_nil_iff]
        omega
      rw [Nat.sub_eq_zero_of_le hlt.le, List.replicate_zero, List.append_nil, hrest,
        if_neg Bool.false_ne_true]
      exact denotes_split hd negative hn hlt
    · have hlength : (digits ++ List.replicate (n - digits.length) '0').length = n := by
        rw [List.length_append, List.length_replicate]
        omega
      rw [List.take_of_length_le hlength.le, List.drop_eq_nil_of_le hlength.le]
      exact denotes_filled hd negative hn hle

/-- Scientific notation denotes the digits with the point behind the first. -/
lemma denotes_scientific (negative : Bool) (hne : digits ≠ []) (leading : Int) :
    Denotes (Number.scientific digits leading) negative
      (natOfDigits digits * 10 ^ (leading - (digits.length - 1 : Nat))) := by
  have hexponent : Decimal.exponentOfChars? ('e' :: (if leading < 0 then '-' else '+') ::
      Nat.toDigits 10 leading.natAbs) = some leading := by
    have hall : (Nat.toDigits 10 leading.natAbs).all Char.isDigit = true :=
      List.all_eq_true.mpr (isDigit_toDigits _)
    have hread (negative : Bool) {rest : List Char}
        (hs : Decimal.takeSign rest = (negative, Nat.toDigits 10 leading.natAbs)) :
        Decimal.exponentOfChars? ('e' :: rest) =
          some (if negative then -(leading.natAbs : Int) else leading.natAbs) := by
      unfold Decimal.exponentOfChars?
      dsimp only
      rw [hs]
      dsimp only
      rw [if_pos ⟨.inl rfl, Nat.toDigits_ne_nil, hall⟩, natOfDigits_toDigits]
    by_cases hneg : leading < 0
    · rw [if_pos hneg, hread true rfl, if_pos rfl]
      congr 1
      omega
    · rw [if_neg hneg, hread false rfl, if_neg Bool.false_ne_true]
      congr 1
      omega
  unfold Number.scientific
  dsimp only
  rw [List.append_assoc]
  split
  · rename_i hlength
    -- a single digit needs no point
    have hone : digits.length - 1 = 0 := by omega
    have h : Denotes (digits ++ _) negative _ := .of_whole hd hne hexponent
    rwa [List.nil_append, List.take_of_length_le hlength, hone, Nat.cast_zero, sub_zero]
  · have htake : digits.take 1 ≠ [] := by
      rw [← List.length_pos_iff, List.length_take]
      have := List.length_pos_iff.mpr hne
      omega
    have h : Denotes (digits.take 1 ++ '.' :: (digits.drop 1 ++ _)) negative _ :=
      .of_fraction (fun c hc => hd c (List.mem_of_mem_take hc)) htake
        (fun c hc => hd c (List.mem_of_mem_drop hc)) hexponent
    rwa [List.take_append_drop, List.length_drop] at h

end Digits

/-- The text of a binary number denotes its shortest decimal. -/
lemma denotes_magnitude (x : Double) :
    ∃ cs, Number.floatText x = (if x.negative then ['-'] else []) ++ cs ∧
      Denotes cs x.negative x.shortest.value := by
  set digits := Nat.toDigits 10 x.shortest.digits with hdigits
  have hd : ∀ c ∈ digits, c.isDigit := isDigit_toDigits _
  have hne : digits ≠ [] := Nat.toDigits_ne_nil
  have hlength : 1 ≤ digits.length := List.length_pos_iff.mpr hne
  have hvalue : x.shortest.value = natOfDigits digits * 10 ^ x.shortest.exponent := by
    rw [ShortDecimal.value, hdigits, natOfDigits_toDigits]
  set leading := x.shortest.exponent + digits.length - 1 with hleading
  have hpositional : Denotes (Number.positional digits (leading + 1)) x.negative x.shortest.value := by
    have h := denotes_positional hd x.negative (leading + 1)
    rwa [show leading + 1 - digits.length = x.shortest.exponent by omega, ← hvalue] at h
  have hscientific : Denotes (Number.scientific digits leading) x.negative x.shortest.value := by
    have h := denotes_scientific hd x.negative hne leading
    rwa [show leading - (digits.length - 1 : Nat) = x.shortest.exponent by omega, ← hvalue] at h
  refine ⟨if -5 ≤ leading ∧ leading < 16 then Number.positional digits (leading + 1)
    else Number.scientific digits leading, ?_, ?_⟩
  · unfold Number.floatText
    cases x.negative <;> rfl
  · split
    · exact hpositional
    · exact hscientific

/-! ## Numbers and the binary numbers nearest to them -/

namespace Number

/-- Nineteen digits and four hundred places are enough to tell doubles apart. -/
lemma double_places : 2 ^ (Format.double.precision + 1) ≤ 10 ^ 19 ∧
    2 ^ Format.double.unit ≤ 10 ^ 400 := by
  decide +kernel

/-- The text of a whole number denotes it. -/
lemma denotes_integer (n : Int) :
    ∃ d, Decimal.ofChars? (intText n) = some d ∧ d.value = n := by
  obtain ⟨d, hd, hnegative, hmagnitude⟩ := denotes_toDigits (n < 0) n.natAbs
  refine ⟨d, ?_, ?_⟩
  · rw [← hd, intText]
    by_cases hneg : n < 0
    · rw [if_pos hneg, decide_eq_true hneg]
      rfl
    · rw [if_neg hneg, decide_eq_false hneg]
      rfl
  · rw [Decimal.value, hnegative, hmagnitude, signed_natAbs]

/-- The text of a binary number denotes a decimal that is rounded to it. -/
lemma denotes_float (x : Double) :
    ∃ d, Decimal.ofChars? (floatText x) = some d ∧ x.IsNearest d.value ∧
      ∀ n : Int, |n| < 2 ^ 53 → x.value = n → d.value = n := by
  obtain ⟨hplaces, hunit⟩ := double_places
  obtain ⟨cs, htext, d, hd, hnegative, hmagnitude⟩ := denotes_magnitude x
  have hvalue : d.value = signed x.negative x.shortest.value := by
    rw [Decimal.value, hnegative, hmagnitude]
  refine ⟨d, htext ▸ hd, ?_, fun n hn hx => ?_⟩
  · rw [hvalue]
    exact Binary.isNearest_of_within (by decide) x.shortest.value_nonneg
      (x.shortest_within hplaces hunit)
  · -- the sizes of both are the same natural number
    have habs : x.magnitude = n.natAbs := by
      rw [← x.abs_value, hx, Nat.cast_natAbs, Int.cast_abs]
    have hlt : n.natAbs < 2 ^ Format.double.precision := by
      zify
      exact hn
    rw [hvalue, Binary.shortest_whole (by decide) (by decide) hunit habs hlt, ← hx, Binary.value,
      habs]

/-- A whole number that fits a word is rounded to a binary number. -/
lemma ofInt?_nearest {n : Int} (h : FitsWord n) :
    ∃ x : Double, Binary.ofInt? n = some x ∧ x.IsNearest n := by
  have hrounds := Binary.round_rounds (f := Format.double) (by decide) (n < 0) n.natAbs one_pos
  rw [Nat.cast_one, div_one] at hrounds
  have hlimit : (n.natAbs : ℚ) < Format.double.limit := by
    have hlt : n.natAbs < 2 ^ 65 := by
      have := h.1
      have := h.2
      omega
    exact Binary.lt_limit_of_lt (k := 65) (by decide) (by exact_mod_cast hlt) (by decide)
  rw [Binary.ofInt?]
  cases hx : Binary.round (f := Format.double) (n < 0) n.natAbs 1 with
  | none =>
    rw [hx] at hrounds
    exact absurd hlimit (not_lt.mpr hrounds)
  | some x =>
    rw [hx] at hrounds
    refine ⟨x, rfl, ?_⟩
    rw [← signed_natAbs]
    exact hrounds.2.2

end Number

end GridRows.Json
