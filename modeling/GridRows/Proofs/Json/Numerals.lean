import GridRows.Json.Printer
import GridRows.Proofs.Json.Number
import GridRows.Proofs.Json.Taking
import GridRows.Proofs.Number.Digits
import Mathlib.Data.List.Basic
import Mathlib.Data.List.TakeWhile

/-!
# Numbers are read back

The reader of numbers looks no further than the number (`Reader.local_number`).  So whether a number
is read back from its text says already that it is read back inside any text
(`Number.reads_of_readsBack`).  A whole number always is (`Number.readsBack_integer`).
-/

namespace GridRows.Json

open Reader
open GridRows.Number (natOfDigits_toDigits)
open GridRows.Number.Decimal (takeSign)

namespace Reader

section Local

/-- What stops a number is no digit, so the digits before it are found without looking at it. -/
lemma digits_append {more : List Char} (hs : Stops more) (cs : List Char) :
    (cs ++ more).takeWhile Char.isDigit = cs.takeWhile Char.isDigit ∧
      (cs ++ more).dropWhile Char.isDigit = cs.dropWhile Char.isDigit ++ more := by
  induction cs with
  | nil =>
    cases more with
    | nil => exact ⟨rfl, rfl⟩
    | cons c more =>
      have hc : c.isDigit = false :=
        (by simp : ∀ c ∈ [',', ']', '\x7d'], c.isDigit = false) c hs.head
      simp [hc]
  | cons c cs ih =>
    cases hc : c.isDigit with
    | false => simp [hc]
    | true => simp [hc, ih]

/-- The digits are taken as far as they go, and there must be one. -/
lemma takes_digits {cs found rest : List Char} :
    Takes digits cs found rest ↔
      found = cs.takeWhile Char.isDigit ∧ found ≠ [] ∧ rest = cs.dropWhile Char.isDigit := by
  unfold digits
  rw [takes_get]
  split
  · rename_i hnil
    constructor
    · exact fun h => (not_takes_throw h).elim
    · rintro ⟨rfl, hne, -⟩
      exact absurd hnil hne
  · rename_i found' hne
    rw [takes_set, takes_pure]
    constructor
    · rintro ⟨rfl, rfl⟩
      exact ⟨rfl, hne, rfl⟩
    · rintro ⟨rfl, -, rfl⟩
      exact ⟨rfl, rfl⟩

/-- Digits are taken without looking behind them. -/
lemma local_digits : Local digits where
  suffix h := by
    obtain ⟨-, -, rfl⟩ := takes_digits.mp h
    exact List.dropWhile_suffix _
  extend {cs found rest more} h hs := by
    obtain ⟨rfl, hne, rfl⟩ := takes_digits.mp h
    obtain ⟨ht, hd⟩ := digits_append hs cs
    rw [takes_digits, ht, hd]
    exact ⟨rfl, hne, rfl⟩

/-- The digits of a whole part are taken without looking behind them. -/
lemma local_wholeDigits : Local wholeDigits := by
  refine local_digits.bind fun found => ?_
  split
  · exact (Local.throw _).bind fun _ => .pure _
  · exact Local.pure found

/-- A fraction is taken without looking behind it. -/
lemma local_fraction : Local fraction := by
  refine Local.behind (p := (· = '.')) (m := some <$> digits) rfl ?_ ?_ (local_digits.map some)
    (by simp)
  · intro c cs hc
    split
    · cases ‹_ :: _ = _›
      contradiction
    · rfl
  · rintro c cs rfl
    rfl

/-- Behind a sign the rest of the text is left. -/
lemma takeSign_suffix (cs : List Char) : (takeSign cs).2 <:+ cs := by
  unfold takeSign
  split
  · exact List.suffix_cons _ _
  · exact List.suffix_cons _ _
  · exact List.suffix_rfl

/-- A sign is found at the front, whatever stops the number behind it. -/
lemma takeSign_append {more : List Char} (cs : List Char) (hs : Stops more) :
    takeSign (cs ++ more) = ((takeSign cs).1, (takeSign cs).2 ++ more) := by
  rcases cs with - | ⟨c, cs⟩
  · unfold takeSign
    rw [List.nil_append]
    split
    · exact absurd hs.head (by decide)
    · exact absurd hs.head (by decide)
    · rfl
  · unfold takeSign
    rw [List.cons_append]
    split <;> simp_all

/-- Takes the digits of an exponent with their sign. -/
def signedDigits : Reader (Option (Bool × List Char)) := do
  let cs ← get
  set (takeSign cs).2
  return some ((takeSign cs).1, ← digits)

/-- An exponent is its sign and at least one digit. -/
lemma takes_signedDigits {cs rest : List Char} {found : Option (Bool × List Char)} :
    Takes signedDigits cs found rest ↔
      ∃ magnitude, Takes digits (takeSign cs).2 magnitude rest ∧
        found = some ((takeSign cs).1, magnitude) := by
  unfold signedDigits
  rw [takes_get, takes_set, ← map_eq_pure_bind, takes_map]

/-- The digits of an exponent are taken without looking behind them. -/
lemma local_signedDigits : Local signedDigits where
  suffix {cs found rest} h := by
    obtain ⟨magnitude, hd, -⟩ := takes_signedDigits.mp h
    exact (local_digits.suffix hd).trans (takeSign_suffix cs)
  extend {cs found rest more} h hs := by
    obtain ⟨magnitude, hd, rfl⟩ := takes_signedDigits.mp h
    refine takes_signedDigits.mpr ?_
    rw [takeSign_append cs hs]
    exact ⟨magnitude, local_digits.extend hd hs, rfl⟩

/-- An exponent is taken without looking behind it. -/
lemma local_exponent : Local exponent :=
  Local.behind (p := fun c => c = 'e' ∨ c = 'E') rfl (fun _ _ hc => if_neg hc)
    (fun _ _ hc => if_pos hc) local_signedDigits (by simp)

/-- A literal is taken without looking behind it. -/
lemma local_literal : Local literal := by
  refine Local.bind ?_ fun negative => local_wholeDigits.bind fun whole =>
    local_fraction.bind fun fraction => local_exponent.bind fun exponent => .pure _
  refine Local.behind (p := (· = '-')) (m := pure true) rfl ?_ ?_ (.pure true) (by simp)
  · intro c cs hc
    split
    · cases ‹_ :: _ = _›
      contradiction
    · rfl
  · rintro c cs rfl
    rfl

/-- A number is taken without looking behind it. -/
lemma local_number : Local number := by
  refine local_literal.bind fun l => ?_
  split
  · exact .pure _
  · exact .throw _

end Local

/-! ## Numbers among the values -/

/-- The text begins as numbers do. -/
def LeadsNumber (cs : List Char) : Prop := ∃ c more, cs = c :: more ∧ (c = '-' ∨ c.isDigit)

/-- What begins as a number begins as a value, and not as null. -/
lemma LeadsNumber.leads {cs : List Char} (h : LeadsNumber cs) : Leads cs := by
  obtain ⟨c, more, rfl, hc⟩ := h
  refine ⟨c, more, rfl, fun hmem => ?_⟩
  have apart : ∀ c ∈ [' ', '\t', '\n', '\r', ']', 'n'], ¬ (c = '-' ∨ c.isDigit) := by simp
  exact apart c hmem hc

/-- Only what begins as a number is taken for one. -/
lemma leadsNumber_of_takes {cs rest : List Char} {n : Number} (h : Takes number cs n rest) :
    LeadsNumber cs := by
  obtain ⟨l, mid, hl, -⟩ := takes_bind.mp h
  obtain ⟨negative, cs', hsign, hw⟩ := takes_bind.mp hl
  have hsign := takes_get.mp hsign
  split at hsign
  · exact ⟨'-', _, rfl, .inl rfl⟩
  · obtain ⟨-, rfl⟩ := takes_pure.mp hsign
    obtain ⟨whole, _, hw, -⟩ := takes_bind.mp hw
    obtain ⟨found, _, hd, -⟩ := takes_bind.mp hw
    obtain ⟨rfl, hne, -⟩ := takes_digits.mp hd
    rcases cs' with - | ⟨c, more⟩
    · exact absurd rfl hne
    · cases hc : c.isDigit with
      | true => exact ⟨c, more, rfl, .inr hc⟩
      | false => exact absurd (List.takeWhile_cons_of_neg (by simp [hc])) hne

/-- A value that is a number is taken by the reader of numbers. -/
lemma takes_number_of_valueWith {array object : Reader Value} {cs rest : List Char} {n : Number}
    (h : Takes (valueWith array object) cs (.number n) rest)
    (ha : ∀ cs rest, ¬ Takes array cs (.number n) rest)
    (ho : ∀ cs rest, ¬ Takes object cs (.number n) rest) :
    Takes number (cs.dropWhile isBlank) n rest := by
  have named {v : Value} {more cs letters : List Char}
      (h : Takes (do set more; word letters; return v) cs (.number n) rest) : .number n = v := by
    obtain ⟨_, _, -, hp⟩ := takes_bind.mp (takes_set.mp h)
    exact (takes_pure.mp hp).1
  unfold valueWith at h
  have h := takes_peek.mp h
  split at h
  case h_1 => exact (not_takes_throw h).elim
  case h_2 => cases named h
  case h_3 => cases named h
  case h_4 => cases named h
  case h_5 =>
    obtain ⟨_, -, hs⟩ := takes_map.mp (takes_set.mp h)
    cases hs
  case h_6 => exact (ha _ _ (takes_set.mp h)).elim
  case h_7 => exact (ho _ _ (takes_set.mp h)).elim
  case h_8 =>
    split at h
    · obtain ⟨_, h, hn⟩ := takes_map.mp h
      cases hn
      exact h
    · exact (not_takes_throw h).elim

/-- A value that is a number has been taken as a number, after blanks. -/
lemma takes_number_of_value {depth : Nat} {cs rest : List Char} {n : Number}
    (h : Takes (value depth) cs (.number n) rest) : Takes number (cs.dropWhile isBlank) n rest := by
  cases depth with
  | zero =>
    exact takes_number_of_valueWith h (fun _ _ => not_takes_throw) fun _ _ => not_takes_throw
  | succ depth =>
    refine takes_number_of_valueWith h (fun cs rest h => ?_) fun cs rest h => ?_
    · obtain ⟨_, -, hv⟩ := takes_map.mp h
      cases hv
    · obtain ⟨_, -, hv⟩ := takes_map.mp h
      cases hv

/-- A number is taken as a value, however arrays and objects are read. -/
lemma takes_valueWith_of_number {array object : Reader Value} {cs rest : List Char} {n : Number}
    (h : Takes number cs n rest) : Takes (valueWith array object) cs (.number n) rest := by
  obtain ⟨c, more, rfl, hc⟩ := leadsNumber_of_takes h
  refine takes_peek.mpr ?_
  rw [(LeadsNumber.leads ⟨c, more, rfl, hc⟩).dropWhile]
  split
  case h_1 heq => cases heq
  case h_8 heq =>
    cases heq
    rw [if_pos hc]
    exact takes_map.mpr ⟨n, h, rfl⟩
  -- every other case asks for a head that no number has
  all_goals
    rename_i heq
    cases heq
    exact absurd hc (by decide)

/-- A number is taken as a value at any depth. -/
lemma takes_value_of_number {depth : Nat} {cs rest : List Char} {n : Number}
    (h : Takes number cs n rest) : Takes (value depth) cs (.number n) rest := by
  cases depth with
  | zero => exact takes_valueWith_of_number h
  | succ depth => exact takes_valueWith_of_number h

end Reader

/-- The text of the value is read as the value. -/
def Value.ReadsBack (v : Value) : Prop := Value.read v.text = .ok v

namespace Number

/-- No character of a number is blank. -/
lemma not_isBlank_of_isNumeral {c : Char} (h : IsNumeral c) : isBlank c = false := by
  cases hb : isBlank c with
  | false => rfl
  | true =>
    simp only [isBlank, Bool.or_eq_true, decide_eq_true_eq] at hb
    rcases hb with ((rfl | rfl) | rfl) | rfl <;> rcases h with h | h <;> exact absurd h (by decide)

/-- A number is read back exactly if the reader of numbers takes all of its text for it. -/
lemma readsBack_iff {n : Number} : (Value.number n).ReadsBack ↔ Takes number n.text n [] := by
  have htext : (Value.number n).text.toList = n.text := by
    rw [Value.text, String.toList_ofList, Value.chars]
  unfold Value.ReadsBack Value.read
  rw [run_eq_ok, htext]
  constructor
  · rintro ⟨rest, ht, hb⟩
    have hn := takes_number_of_value ht
    have hblank : ∀ c ∈ n.text, isBlank c = false := fun c hc =>
      not_isBlank_of_isNumeral (text_chars n c hc)
    have hdrop : n.text.dropWhile isBlank = n.text := by
      cases htext : n.text with
      | nil => rfl
      | cons c more => exact List.dropWhile_cons_of_neg (by simp [hblank c (htext ▸ .head more)])
    rw [hdrop] at hn
    have hrest : rest = [] := by
      refine List.eq_nil_iff_forall_not_mem.mpr fun c hc => ?_
      have hc' := hblank c ((local_number.suffix hn).subset hc)
      exact absurd (List.all_eq_true.mp hb c hc) (by simp [hc'])
    exact hrest ▸ hn
  · exact fun h => ⟨[], takes_value_of_number h, rfl⟩

/-- A number that is read back is read in front of anything that may follow a value. -/
lemma reads_of_readsBack {n : Number} (h : (Value.number n).ReadsBack) : Reads number n.text n :=
  fun _ hs => local_number.extend (readsBack_iff.mp h) hs

/-! ## Whole numbers -/

/-- Only the digits of zero begin with a zero. -/
lemma head_toDigits {k : Nat} (hk : k ≠ 0) : (Nat.toDigits 10 k).head? ≠ some '0' := by
  induction k using Nat.strongRecOn with
  | _ k ih =>
    rw [Nat.toDigits_eq_if (by decide)]
    split
    · rename_i hlt
      have digit : ∀ k < 10, k ≠ 0 → [k.digitChar].head? ≠ some '0' := by decide
      exact digit k hlt hk
    · have hdiv := ih (k / 10) (by omega) (by omega)
      rwa [List.head?_append_of_ne_nil _ Nat.toDigits_ne_nil]

/-- The digits of a natural number are taken as a whole part, since only zero begins with a zero. -/
lemma takes_wholeDigits (k : Nat) :
    Takes wholeDigits (Nat.toDigits 10 k) (Nat.toDigits 10 k) [] := by
  have hdigits : ∀ c ∈ Nat.toDigits 10 k, c.isDigit := fun c =>
    Nat.isDigit_of_mem_toDigits (by decide) (by decide)
  have hall : Takes digits (Nat.toDigits 10 k) (Nat.toDigits 10 k) [] := by
    refine takes_digits.mpr ⟨?_, Nat.toDigits_ne_nil, ?_⟩
    · exact (List.takeWhile_eq_self_iff.mpr hdigits).symm
    · exact (List.dropWhile_eq_nil_iff.mpr hdigits).symm
  refine hall.bind.mpr ?_
  rw [if_neg]
  · exact takes_pure.mpr ⟨rfl, rfl⟩
  · rintro ⟨hlength, hhead⟩
    cases k with
    | zero => exact hlength rfl
    | succ k => exact head_toDigits (Nat.succ_ne_zero k) hhead

/-- The text of a whole number is taken as its sign and its digits. -/
lemma takes_literal_intText (n : Int) :
    Takes literal (intText n) ⟨n < 0, Nat.toDigits 10 n.natAbs, none, none⟩ [] := by
  have unsigned (negative : Bool) :
      Takes (do
        let whole ← wholeDigits
        let fraction ← fraction
        let exponent ← exponent
        return (⟨negative, whole, fraction, exponent⟩ : Literal))
        (Nat.toDigits 10 n.natAbs) ⟨negative, Nat.toDigits 10 n.natAbs, none, none⟩ [] :=
    (takes_wholeDigits n.natAbs).bind.mpr (takes_pure.mpr ⟨rfl, rfl⟩)
  unfold literal intText
  split
  · rename_i hneg
    rw [decide_eq_true hneg]
    exact unsigned true
  · rename_i hneg
    rw [decide_eq_false hneg]
    refine takes_bind.mpr ⟨false, _, ?_, unsigned false⟩
    refine takes_get.mpr ?_
    split
    · rename_i more heq
      have hdigit : '-'.isDigit := Nat.isDigit_of_mem_toDigits (by decide) (by decide)
        (heq ▸ List.mem_cons_self (a := '-') (l := more))
      exact absurd hdigit (by decide)
    · exact takes_pure.mpr ⟨rfl, rfl⟩

/-- The sign and the digits of a whole number are worth the number. -/
lemma toInt?_intText (n : Int) :
    Literal.toInt? ⟨n < 0, Nat.toDigits 10 n.natAbs, none, none⟩ = some n := by
  unfold Literal.toInt?
  simp only [natOfDigits_toDigits]
  grind

/-- A whole number is read back from its text. -/
lemma readsBack_integer (n : Int) (fits : FitsWord n) :
    (Value.number (.integer n fits)).ReadsBack := by
  refine readsBack_iff.mpr ((takes_literal_intText n).bind.mpr ?_)
  have hn : Literal.toNumber? ⟨n < 0, Nat.toDigits 10 n.natAbs, none, none⟩ =
      some (.integer n fits) := by
    unfold Literal.toNumber?
    rw [toInt?_intText, Option.bind_some, ofInt?, dif_pos fits]
    rfl
  rw [hn]
  exact takes_pure.mpr ⟨rfl, rfl⟩

end Number

end GridRows.Json
