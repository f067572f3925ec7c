import GridRows.Postgres.Cell
import GridRows.Proofs.Postgres.Numeric

/-!
# Cells that are not null

A cell that holds a value of its type is shown as that value and not as null, for each type whose values
are told apart.  Whole numbers fit a word, and a finite binary number is one of 64 bits too.  Only a
numeric may have no number to be shown as: from the limit of the binary numbers on, the nearest of them is
none (`Numeric.toJson_eq_null`).  A text is shown as it was bound, with the number of its format or without
(`cell_of_bound_text`).

The main statement is `cell_eq_null`.
-/

namespace GridRows

/-! ## Encoded numbers -/

namespace Number

/-- The magnitudes that are rounded to doubles end half a step above the greatest of them. -/
lemma Format.limit_double : Format.double.limit = 2 ^ 1024 - 2 ^ 970 := by
  have hshift : Format.double.maxShift = 2045 := rfl
  have hunit : Format.double.unit = 1074 := rfl
  have hprecision : Format.double.precision = 53 := rfl
  have hpow : (2 : ℚ) ^ 2045 = 2 ^ 970 * 2 ^ (1074 + 1) := by rw [← pow_add]
  have hne : (2 : ℚ) ^ (1074 + 1) ≠ 0 := by positivity
  rw [Format.limit, hprecision, hshift, hunit, hpow, ← mul_assoc, mul_div_cancel_right₀ _ hne, sub_mul,
    one_mul, ← pow_add]

/-- Every magnitude that is rounded to 32 bits is rounded to 64 bits as well. -/
lemma Format.limit_single_le : Format.single.limit ≤ Format.double.limit := by
  have hshift : Format.single.maxShift = 253 := rfl
  have hunit : Format.single.unit = 149 := rfl
  have hprecision : Format.single.precision = 24 := rfl
  have hsingle : Format.single.limit ≤ 2 ^ 128 := by
    rw [Format.limit, hprecision, hshift, hunit]
    norm_num
  have hle {k : Nat} (hk : k ≤ 1023) : (2 : ℚ) ^ k ≤ 2 ^ 1023 :=
    pow_le_pow_right₀ one_le_two hk
  calc Format.single.limit ≤ 2 ^ 1023 := hsingle.trans (hle (by decide))
    _ = 2 ^ 1024 - 2 ^ 1023 := by rw [pow_succ 2 1023, mul_two, add_sub_cancel_right]
    _ ≤ 2 ^ 1024 - 2 ^ 970 := sub_le_sub_left (hle (by decide)) _
    _ = Format.double.limit := limit_double.symm

namespace Binary

variable {f : Format}

/-- A word whose exponent field is not full encodes a finite number. -/
lemma exists_ofBits? (hp : 0 < f.precision) {word : Nat}
    (hfield : word / 2 ^ (f.precision - 1) % 2 ^ f.exponentBits < 2 ^ f.exponentBits - 1) :
    ∃ x : Binary f, ofBits? word = some x := by
  have hidden : 2 ^ f.precision = 2 ^ (f.precision - 1) * 2 := by
    rw [← pow_succ, Nat.sub_add_cancel hp]
  have hdigits : word % 2 ^ (f.precision - 1) < 2 ^ (f.precision - 1) :=
    Nat.mod_lt _ (Nat.two_pow_pos _)
  have hsign : word % 2 ^ f.signBit / 2 ^ (f.precision - 1) =
      word / 2 ^ (f.precision - 1) % 2 ^ f.exponentBits := by
    rw [Format.signBit, pow_add, Nat.mod_mul_right_div_self]
  have hmax : f.maxShift = 2 ^ f.exponentBits - 3 := by rw [Format.maxShift, Nat.one_shiftLeft]
  unfold ofBits?
  simp only [Nat.one_shiftLeft, hsign]
  -- without an exponent there is no hidden bit
  split
  · have hlt : word % 2 ^ (f.precision - 1) < 2 ^ f.precision := by omega
    obtain ⟨hover, -⟩ | ⟨-, x, hx, -⟩ := ofParts?_cases (word.testBit f.signBit) 0 hlt (absurd rfl)
    · exact absurd hover (Nat.not_lt_zero _)
    · exact ⟨x, hx⟩
  · have hlt : 2 ^ (f.precision - 1) + word % 2 ^ (f.precision - 1) < 2 ^ f.precision := by omega
    obtain ⟨hover, -⟩ | ⟨-, x, hx, -⟩ := ofParts?_cases (word.testBit f.signBit)
      (word / 2 ^ (f.precision - 1) % 2 ^ f.exponentBits - 1) hlt fun _ => Nat.le_add_right _ _
    · omega
    · exact ⟨x, hx⟩

/-- A number is also found in a format whose limit is not below that of its own. -/
lemma exists_convert {g : Format} (hp : 2 ≤ g.precision) (hlimit : f.limit ≤ g.limit) (x : Binary f) :
    ∃ y : Binary g, x.convert g = some y := by
  have hrounds := round_rounds (f := g) hp x.negative x.scaled
    (by rw [Nat.one_shiftLeft]; exact Nat.two_pow_pos f.unit : 0 < 1 <<< f.unit)
  have hmagnitude : (x.scaled : ℚ) / (1 <<< f.unit : Nat) = x.magnitude := by
    rw [magnitude, Nat.one_shiftLeft]
    push_cast
    rfl
  rw [hmagnitude] at hrounds
  cases hy : x.convert g with
  | some y => exact ⟨y, rfl⟩
  | none =>
    rw [convert] at hy
    rw [hy] at hrounds
    exact absurd (x.magnitude_lt_limit.trans_le hlimit) (not_lt.mpr hrounds)

end Binary

end Number

/-! ## Encoded texts -/

namespace Text

/-- Bytes are listed from the first one on. -/
lemma loop_eq_reverse_append (bytes : ByteArray) (i : Nat) (found : List UInt8) :
    ByteArray.toList.loop bytes i found = found.reverse ++ bytes.data.toList.drop i := by
  fun_induction ByteArray.toList.loop bytes i found with
  | case1 i found h ih =>
    have hi : i < bytes.data.toList.length := h
    have hget : bytes.get! i = bytes.data.toList[i] := getElem!_pos bytes.data i h
    rw [ih, List.drop_eq_getElem_cons hi, hget, List.reverse_cons, List.append_assoc]
    rfl
  | case2 i found h =>
    have hi : bytes.data.toList.length ≤ i := Nat.le_of_not_lt h
    rw [List.drop_eq_nil_of_le hi, List.append_nil]

/-- The bytes of a text are read as the text. -/
lemma ofUtf8?_utf8 (s : String) : ofUtf8? (utf8 s) = some s := by
  have hbytes : (⟨(utf8 s).toArray⟩ : ByteArray) = s.toUTF8 := by
    rw [utf8, ByteArray.toList, loop_eq_reverse_append]
    rfl
  rw [ofUtf8?, hbytes]
  exact dif_pos s.isValidUTF8

/-- Encoded characters are read as the text of them. -/
lemma ofUtf8?_encoded (cs : List Char) :
    ofUtf8? (cs.flatMap String.utf8EncodeChar) = some (String.ofList cs) := by
  have hbytes : (⟨(cs.flatMap String.utf8EncodeChar).toArray⟩ : ByteArray) = cs.utf8Encode := by
    refine ByteArray.ext (Array.toList_inj.mp ?_)
    rw [List.utf8Encode, List.toList_data_toByteArray]
  rw [ofUtf8?, hbytes]
  exact dif_pos ByteArray.isValidUTF8_utf8Encode

end Text

namespace Postgres

open Json (Value)
open Number (Binary Double Format signed_false signed_true)

/-! ## Cells by type -/

/--
The bytes are a value of the type, and neither an infinity nor what is no number.  Of the types that are
not told apart nothing is said.
-/
def WireType.Holds : WireType → List UInt8 → Prop
  | .bool, bytes => bytes.length = 1
  | .int2, bytes => bytes.length = 2
  | .int4, bytes => bytes.length = 4
  | .int8, bytes => bytes.length = 8
  | .float4, bytes => bytes.length = 4 ∧ natOfBytes bytes / 2 ^ 23 % 2 ^ 8 ≠ 2 ^ 8 - 1
  | .float8, bytes => bytes.length = 8 ∧ natOfBytes bytes / 2 ^ 52 % 2 ^ 11 ≠ 2 ^ 11 - 1
  | .numeric, bytes =>
    bytes.length = 8 + 2 * wordAt bytes 0 ∧ (wordAt bytes 2 = 0 ∨ wordAt bytes 2 = 0x4000) ∧
      ∀ i < wordAt bytes 0, wordAt bytes (4 + i) < 10000
  | .text, bytes => ∃ cs : List Char, bytes = cs.flatMap String.utf8EncodeChar
  | .versioned, bytes => ∃ cs : List Char, bytes = 1 :: cs.flatMap String.utf8EncodeChar
  | .other, _ => False

/-- So many bytes make up a number below the power of two of their bits. -/
lemma natOfBytes_lt (bytes : List UInt8) : natOfBytes bytes < 2 ^ (8 * bytes.length) := by
  suffices h : ∀ n, bytes.foldl (fun n b => 256 * n + b.toNat) n < (n + 1) * 2 ^ (8 * bytes.length) by
    simpa [natOfBytes] using h 0
  induction bytes with
  | nil => simp
  | cons b bytes ih =>
    intro n
    have hb : b.toNat < 256 := b.toNat_lt
    calc (b :: bytes).foldl (fun n b => 256 * n + b.toNat) n
        < (256 * n + b.toNat + 1) * 2 ^ (8 * bytes.length) := ih _
      _ ≤ ((n + 1) * 2 ^ 8) * 2 ^ (8 * bytes.length) := Nat.mul_le_mul_right _ (by omega)
      _ = (n + 1) * 2 ^ (8 * (b :: bytes).length) := by
        rw [mul_assoc, ← pow_add, List.length_cons, Nat.mul_add, Nat.add_comm 8]

section Cells

variable {bytes : List UInt8}

/-- A signed number of up to eight bytes is shown. -/
lemma exists_intCell? {width : Nat} (hpos : 0 < width) (hle : width ≤ 8) (h : bytes.length = width) :
    ∃ n, intCell? width bytes = some (.number n) := by
  have hlt := natOfBytes_lt bytes
  have hdouble : 2 ^ (8 * width) = 2 * 2 ^ (8 * width - 1) := by
    rw [← pow_succ', Nat.sub_add_cancel (by omega)]
  have hword : 2 ^ (8 * width - 1) ≤ 2 ^ 63 := Nat.pow_le_pow_right (by decide) (by omega)
  have hfits : Json.FitsWord (if natOfBytes bytes < 1 <<< (8 * width - 1) then natOfBytes bytes
      else (natOfBytes bytes : Int) - (1 <<< (8 * width) : Nat)) := by
    rw [h] at hlt
    rw [Nat.one_shiftLeft, Nat.one_shiftLeft]
    split <;> constructor <;> omega
  -- the number is the one of two's complement, so only its range had to be shown
  refine ⟨.integer _ hfits, ?_⟩
  rw [intCell?, intOfBytes?, if_pos h, Option.bind_eq_bind, Option.bind_some, Json.Number.ofInt?,
    dif_pos hfits]
  rfl

/-- A finite binary number of its own width is shown, if doubles reach as far as its format. -/
lemma exists_floatCell? {f : Format} {width : Nat} (hp : 0 < f.precision)
    (hlimit : f.limit ≤ Format.double.limit) (hlength : bytes.length = width)
    (hfield : natOfBytes bytes / 2 ^ (f.precision - 1) % 2 ^ f.exponentBits ≠
      2 ^ f.exponentBits - 1) :
    ∃ y, floatCell? f width bytes = some (.number (.float y)) := by
  have hmod := Nat.mod_lt (natOfBytes bytes / 2 ^ (f.precision - 1)) (Nat.two_pow_pos f.exponentBits)
  have hlt : natOfBytes bytes / 2 ^ (f.precision - 1) % 2 ^ f.exponentBits <
      2 ^ f.exponentBits - 1 := by omega
  obtain ⟨x, hx⟩ := Binary.exists_ofBits? hp hlt
  obtain ⟨y, hy⟩ := x.exists_convert (g := Format.double) (by decide) hlimit
  refine ⟨y, ?_⟩
  simp [floatCell?, hlength, hx, hy]

/-- No word holds a whole number from the limit of the binary numbers on. -/
lemma Numeric.toInteger?_of_limit_le {n : Numeric} (h : ∀ d ∈ n.digits, d < 10000)
    (hlimit : Format.double.limit ≤ n.truncated) : n.toInteger? = none := by
  by_cases hs : n.scale = 0
  · rcases toInteger?_cases hs with ⟨-, -, hlow, hhigh⟩ | ⟨hnone, -⟩
    · exfalso
      have hwhole := whole_eq h hs
      have hlow : (-0x8000000000000000 : ℚ) ≤ n.whole := by exact_mod_cast hlow
      have hhigh : (n.whole : ℚ) < 0x8000000000000000 := by exact_mod_cast hhigh
      have hword : (0x8000000000000000 : ℚ) < Format.double.limit :=
        Binary.lt_limit_of_lt (k := 64) (by decide) (by norm_num) (by decide)
      cases hnegative : n.negative with
      | true =>
        rw [hnegative, signed_true] at hwhole
        linarith
      | false =>
        rw [hnegative, signed_false] at hwhole
        linarith
    · exact hnone
  · exact if_neg hs

/-- A number has no text exactly if the nearest binary number would be an infinity. -/
lemma Numeric.toJson_eq_null {n : Numeric} (h : ∀ d ∈ n.digits, d < 10000) :
    n.toJson = .null ↔ Format.double.limit ≤ n.truncated := by
  have hrounds := toDouble?_rounds h
  cases hdouble : n.toDouble? with
  | some x =>
    rw [hdouble] at hrounds
    refine iff_of_false ?_ (not_le.mpr hrounds.1)
    rw [toJson, hdouble]
    cases n.toInteger? with
    | some m => rintro ⟨⟩
    | none => rintro ⟨⟩
  | none =>
    rw [hdouble] at hrounds
    refine iff_of_true ?_ hrounds
    rw [toJson, hdouble, toInteger?_of_limit_le h hrounds]
    rfl

end Cells

/-- A text is read from a cell of a textual type as it was bound for the type. -/
theorem cell_of_bound_text {t : WireType} (h : t.isTextual) (s : String) :
    cell t ((Parameter.text s).bytes? t) = .string s := by
  have htext : (Text.ofUtf8? (Text.utf8 s)).map Value.string = some (.string s) := by
    rw [Text.ofUtf8?_utf8]
    rfl
  cases t with
  | text => exact congrArg (·.getD .null) htext
  | versioned => exact congrArg (·.getD .null) htext
  | _ => cases h

/--
A cell with a value of its type is null exactly if it is a numeric whose value, cut off behind its scale, is
so large that the nearest binary number would be an infinity.
-/
theorem cell_eq_null {t : WireType} {bytes : List UInt8} (h : t.Holds bytes) :
    cell t (some bytes) = .null ↔
      t = .numeric ∧ 2 ^ 1024 - 2 ^ 970 ≤ (Numeric.ofBytes bytes).truncated := by
  have hshown {v : Value} (ht : t ≠ .numeric) (hcell : cell? t bytes = some v) (hv : v ≠ .null) :
      cell t (some bytes) = .null ↔
        t = .numeric ∧ 2 ^ 1024 - 2 ^ 970 ≤ (Numeric.ofBytes bytes).truncated := by
    refine iff_of_false ?_ fun hnumeric => ht hnumeric.1
    rw [cell, Option.bind_some, hcell]
    exact hv
  cases t with
  | bool =>
    obtain ⟨b, rfl⟩ := List.length_eq_one_iff.mp h
    exact hshown nofun rfl nofun
  | int2 =>
    obtain ⟨n, hn⟩ := exists_intCell? (by decide) (by decide) h
    exact hshown nofun hn nofun
  | int4 =>
    obtain ⟨n, hn⟩ := exists_intCell? (by decide) (by decide) h
    exact hshown nofun hn nofun
  | int8 =>
    obtain ⟨n, hn⟩ := exists_intCell? (by decide) (by decide) h
    exact hshown nofun hn nofun
  | float4 =>
    obtain ⟨y, hy⟩ := exists_floatCell? (by decide) Format.limit_single_le h.1 h.2
    exact hshown nofun hy nofun
  | float8 =>
    obtain ⟨y, hy⟩ := exists_floatCell? (by decide) le_rfl h.1 h.2
    exact hshown nofun hy nofun
  | numeric =>
    obtain ⟨hlength, hsign, hdigits⟩ := h
    have hlt : ∀ d ∈ (Numeric.ofBytes bytes).digits, d < 10000 := by
      intro d hd
      obtain ⟨i, hi, rfl⟩ := List.mem_map.mp hd
      exact hdigits i (List.mem_range.mp hi)
    have hcell : cell .numeric (some bytes) = (Numeric.ofBytes bytes).toJson := by
      rw [cell, Option.bind_some, cell?, decodeNumeric_number hlength.ge hsign, Option.getD_some]
    rw [hcell, Numeric.toJson_eq_null hlt, Format.limit_double]
    exact (and_iff_right rfl).symm
  | text =>
    obtain ⟨cs, rfl⟩ := h
    exact hshown nofun (congrArg (Option.map Value.string) (Text.ofUtf8?_encoded cs)) nofun
  | versioned =>
    obtain ⟨cs, rfl⟩ := h
    have hversion : (1 : UInt8) = textVersion := rfl
    have hcell : cell? .versioned (1 :: cs.flatMap String.utf8EncodeChar) =
        some (.string (String.ofList cs)) := by
      rw [cell?, if_pos hversion, Text.ofUtf8?_encoded]
      rfl
    exact hshown nofun hcell nofun
  | other => exact h.elim

/-- The largest binary number of 32 bits, next to infinity. -/
def largest : List UInt8 := [0x7F, 0x7F, 0xFF, 0xFF]

/-- The greatest number of 32 bits is shown, although the next word is infinity. -/
theorem cell_eq_null_largest :
    WireType.float4.Holds largest ∧ cell .float4 (some largest) ≠ .null := by
  have h : WireType.float4.Holds largest := ⟨rfl, by decide⟩
  exact ⟨h, fun hnull => nomatch ((cell_eq_null h).mp hnull).1⟩

/-- The numeric value `10 ^ 309`. -/
def huge : List UInt8 := [0, 1, 0, 77, 0, 0, 0, 0, 0, 10]

/--
The huge numeric has no fraction, but no word holds it and no finite binary number is near to it.  The first
day of 2000 is of a type whose values are not told apart.
-/
theorem cell_null_huge_date :
    (WireType.numeric.Holds huge ∧ cell .numeric (some huge) = .null) ∧
      cell (.ofName "date") (some [0, 0, 0, 0]) = .null := by
  have h : WireType.numeric.Holds huge := ⟨rfl, .inl rfl, by decide⟩
  have hdecode : decodeNumeric huge = some (Numeric.ofBytes huge).toJson :=
    decodeNumeric_number h.1.ge h.2.1
  have hinteger : (Numeric.ofBytes huge).toInteger? = none := by decide +kernel
  have hdouble : (Numeric.ofBytes huge).toDouble? = none := by decide +kernel
  refine ⟨⟨h, ?_⟩, rfl⟩
  rw [cell, Option.bind_some, cell?, hdecode, Option.getD_some, Numeric.toJson, hinteger, hdouble]
  rfl

end Postgres

end GridRows
