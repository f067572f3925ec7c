import GridRows.Proofs.Json.Numerals

/-!
# Written values are read back

The readers of strings, arrays and objects take the text that is written for what they return.  An
array is read back if its items are (`Reader.reads_sequence`); an object takes a draft through its
members one after the other (`Reader.Fills`), and is read back to where they lead
(`Reader.takes_objectRest`).
-/

namespace GridRows.Json

namespace Reader

variable {α σ : Type}

/-! ## Strings -/

section Strings

/-- Four hexadecimal digits with two zeros before them are the code of a control character. -/
lemma codeUnit_control {k : Nat} (hk : k < 0x20) (rest : List Char) :
    codeUnit ('0' :: '0' :: (Text.byteHex (UInt8.ofNat k) ++ rest)) = .ok (k, rest) := by
  have digits : ∀ k < 0x20, Text.hexNat? ('0' :: '0' :: Text.byteHex (UInt8.ofNat k)) = some k := by
    decide
  have h := digits k hk
  unfold Text.byteHex at h ⊢
  simp only [List.cons_append, List.nil_append, codeUnit, h]

/-- A unit below those that come in pairs is a character of its own. -/
lemma escapedUnit_of_codeUnit {cs rest : List Char} {k : Nat} (h : codeUnit cs = .ok (k, rest))
    (hk : k < 0xD800) : escapedUnit cs = .ok (Char.ofNat k, rest) := by
  unfold escapedUnit
  rw [h]
  refine (if_neg ?_).trans (if_neg ?_)
  · omega
  · omega

/-- A control character is read from its escape. -/
lemma stringStep_control {c : Char} (hc : c.toNat < 0x20) (rest : List Char) :
    stringStep ('\\' :: 'u' :: '0' :: '0' :: (Text.byteHex c.toUInt8 ++ rest)) =
      .ok (.char c rest) := by
  have hbyte : c.toUInt8 = UInt8.ofNat c.toNat := rfl
  rw [stringStep, hbyte, escapedUnit_of_codeUnit (codeUnit_control hc rest) (by omega),
    Char.ofNat_toNat]
  rfl

/-- A character that needs no escape is read as itself. -/
lemma stringStep_plain {c : Char} (hc : ¬ (c = '"' ∨ c = '\\')) (hn : ¬ c.toNat < 0x20)
    (rest : List Char) : stringStep (c :: rest) = .ok (.char c rest) := by
  unfold stringStep
  split
  case h_1 heq => cases heq
  case h_6 heq => 
    cases heq
    exact if_neg hn
  all_goals
    rename_i heq
    cases heq
    exact absurd (by decide) hc

/-- A character that is written inside a string is read in one step. -/
lemma stringStep_escapedChar (c : Char) (rest : List Char) :
    stringStep (escapedChar c ++ rest) = .ok (.char c rest) := by
  unfold escapedChar
  split
  next hc => rcases hc with rfl | rfl <;> rfl
  split
  next hc => exact hc ▸ rfl
  split
  next hc => exact hc ▸ rfl
  split
  next hc => exact hc ▸ rfl
  split
  next hc => exact hc ▸ rfl
  split
  next hc => exact hc ▸ rfl
  split
  next hc => exact stringStep_control hc rest
  next hc _ _ _ _ _ hn => exact stringStep_plain hc hn rest

/-- The characters of a string are read from their escapes, up to the quote. -/
lemma stringChars_written (rest : List Char) {cs : List Char} {fuel : Nat} (hf : cs.length < fuel) :
    Reader.stringChars stringStep fuel (cs.flatMap escapedChar ++ '"' :: rest) = .ok (cs, rest) := by
  induction cs generalizing fuel with
  | nil =>
    obtain ⟨fuel, rfl⟩ := Nat.exists_eq_succ_of_ne_zero (Nat.ne_of_gt hf)
    rfl
  | cons c cs ih =>
    obtain ⟨fuel, rfl⟩ := Nat.exists_eq_succ_of_ne_zero (Nat.ne_of_gt (Nat.zero_lt_of_lt hf))
    have hrest := ih (Nat.lt_of_succ_lt_succ hf)
    rw [List.flatMap_cons, List.append_assoc, Reader.stringChars, stringStep_escapedChar]
    change (Reader.stringChars stringStep fuel _ >>= _) = _
    rw [hrest]
    rfl

/-- No character is written as nothing. -/
lemma escapedChar_ne_nil (c : Char) : escapedChar c ≠ [] := by
  unfold escapedChar
  grind

/-- Escapes do not make a text shorter. -/
lemma length_le_flatMap_escapedChar (cs : List Char) :
    cs.length ≤ (cs.flatMap escapedChar).length := by
  induction cs with
  | nil => exact Nat.le_refl 0
  | cons c cs ih =>
    have hc := List.length_pos_iff.mpr (escapedChar_ne_nil c)
    rw [List.flatMap_cons, List.length_append, List.length_cons]
    omega

/-- What stands behind the first quote of a string is taken for the string. -/
lemma takes_stringRest (s : String) (rest : List Char) :
    Takes stringRest (s.toList.flatMap escapedChar ++ '"' :: rest) s rest := by
  refine takes_get.mpr ?_
  rw [stringChars_written rest]
  · exact takes_pure.mpr ⟨(String.ofList_toList).symm, rfl⟩
  · have := length_le_flatMap_escapedChar s.toList
    rw [List.length_append]
    omega

/-- A string in front of a rest is a quote, its escaped characters, a quote and the rest. -/
lemma stringChars_append (s : String) (rest : List Char) :
    Json.stringChars s ++ rest = '"' :: (s.toList.flatMap escapedChar ++ '"' :: rest) := by
  rw [Json.stringChars, List.cons_append, List.cons_append, List.append_assoc]
  rfl

/-- A string is taken where one is expected, whatever else was expected there. -/
lemma takes_stringAs (expected s : String) (rest : List Char) :
    Takes (stringAs expected) (Json.stringChars s ++ rest) s rest := by
  rw [stringChars_append]
  exact takes_stringRest s rest

/-- The text of a string begins as a value. -/
lemma leads_stringChars (s : String) : Leads (Json.stringChars s) :=
  ⟨'"', _, rfl, by decide⟩

/-- A string is read from its text. -/
lemma reads_string (s : String) : Reads string (Json.stringChars s) s :=
  fun rest _ => takes_stringAs _ s rest

end Strings

/-! ## Parts between commas -/

/-- The items of an array are written one by one. -/
lemma itemChars_eq_map (items : List Value) : itemChars items = items.map Value.chars := by
  induction items with
  | nil => rfl
  | cons v items ih => rw [itemChars, ih, List.map_cons]

/-- There is one text for each member. -/
lemma length_memberChars (members : List (String × Value)) :
    (memberChars members).length = members.length := by
  induction members with
  | nil => rfl
  | cons _ members ih => rw [memberChars, List.length_cons, ih, List.length_cons]

/-- The parts behind the first have a comma each. -/
lemma commaSeparated_cons (part : List Char) (parts : List (List Char)) :
    commaSeparated (part :: parts) = part ++ parts.flatMap (',' :: ·) := by
  induction parts generalizing part with
  | nil => exact (List.append_nil part).symm
  | cons next parts ih =>
    rw [commaSeparated, ih, List.flatMap_cons, List.cons_append]
    exact nofun

/-- Parts that begin with commas, and a closing character, stop what stands before them. -/
lemma stops_parts {c : Char} (hc : c ∈ [',', ']', '\x7d']) (parts : List (List Char))
    (rest : List Char) : Stops (parts.flatMap (',' :: ·) ++ c :: rest) := by
  cases parts with
  | nil => exact .cons hc rest
  | cons part parts => exact .cons (by decide) _

/-- There are no more parts than characters behind the first of them, the closing bracket included. -/
lemma length_parts_lt (parts : List (List Char)) (c : Char) (rest : List Char) :
    parts.length < (parts.flatMap (',' :: ·) ++ c :: rest).length := by
  induction parts with
  | nil => exact Nat.zero_lt_succ _
  | cons part parts ih =>
    simp only [List.flatMap_cons, List.length_append, List.length_cons] at ih ⊢
    omega

/-! ## Arrays -/

section Arrays

variable {item : Reader α} {write : α → List Char}

/-- A closing bracket ends the items. -/
lemma takes_nextItem_end (first : Bool) (rest : List Char) :
    Takes (nextItem first) (']' :: rest) false (']' :: rest) :=
  takes_peek.mpr (takes_pure.mpr ⟨rfl, rfl⟩)

/-- The first item needs no comma. -/
lemma takes_nextItem_first {cs : List Char} (h : Leads cs) : Takes (nextItem true) cs true cs := by
  refine takes_peek.mpr ?_
  rw [h.dropWhile]
  obtain ⟨c, more, rfl, hc⟩ := h
  split
  case h_1 heq => cases heq
  case h_2 heq =>
    cases heq
    exact absurd (by decide) hc
  case h_3 => exact takes_pure.mpr ⟨rfl, rfl⟩

/-- A comma leads to the next item. -/
lemma takes_nextItem_comma {cs : List Char} (h : Leads cs) :
    Takes (nextItem false) (',' :: cs) true cs := by
  refine takes_peek.mpr (takes_set.mpr (takes_peek.mpr ?_))
  rw [h.dropWhile]
  obtain ⟨c, more, rfl, hc⟩ := h
  split
  case h_1 heq => cases heq
  case h_2 heq =>
    cases heq
    exact absurd (by decide) hc
  case h_3 => exact takes_pure.mpr ⟨rfl, rfl⟩

/-- Items that are each read from their text are read one after the other, up to the bracket. -/
lemma takes_items {xs : List α} (h : ∀ x ∈ xs, Leads (write x) ∧ Reads item (write x) x)
    (rest : List Char) {fuel : Nat} (hf : xs.length < fuel) :
    Takes (items item fuel false) ((xs.map write).flatMap (',' :: ·) ++ ']' :: rest) xs
      (']' :: rest) := by
  induction xs generalizing fuel with
  | nil =>
    obtain ⟨fuel, rfl⟩ := Nat.exists_eq_succ_of_ne_zero (Nat.ne_of_gt hf)
    exact (takes_nextItem_end false rest).bind.mpr (takes_pure.mpr ⟨rfl, rfl⟩)
  | cons x xs ih =>
    obtain ⟨fuel, rfl⟩ := Nat.exists_eq_succ_of_ne_zero (Nat.ne_of_gt (Nat.zero_lt_of_lt hf))
    obtain ⟨⟨hleads, hreads⟩, hxs⟩ := List.forall_mem_cons.mp h
    have hrest := ih hxs (Nat.lt_of_succ_lt_succ hf)
    rw [List.map_cons, List.flatMap_cons, List.append_assoc, List.cons_append]
    refine (takes_nextItem_comma (hleads.append _)).bind.mpr ?_
    refine (hreads _ (stops_parts (by decide) _ rest)).bind.mpr ?_
    exact hrest.bind.mpr (takes_pure.mpr ⟨rfl, rfl⟩)

/-- The first item has no comma before it. -/
lemma takes_arrayRest {xs : List α} (h : ∀ x ∈ xs, Leads (write x) ∧ Reads item (write x) x)
    (rest : List Char) :
    Takes (arrayRest item) (commaSeparated (xs.map write) ++ ']' :: rest) xs rest := by
  have hend : Takes endArray (']' :: rest) () rest := takes_peek.mpr rfl
  refine takes_get.mpr (takes_bind.mpr ⟨xs, ']' :: rest, ?_,
    hend.bind.mpr (takes_pure.mpr ⟨rfl, rfl⟩)⟩)
  cases xs with
  | nil => exact (takes_nextItem_end true rest).bind.mpr (takes_pure.mpr ⟨rfl, rfl⟩)
  | cons x xs =>
    obtain ⟨⟨hleads, hreads⟩, hxs⟩ := List.forall_mem_cons.mp h
    rw [List.map_cons, commaSeparated_cons, List.append_assoc]
    refine (takes_nextItem_first (hleads.append _)).bind.mpr ?_
    refine (hreads _ (stops_parts (by decide) _ rest)).bind.mpr ?_
    refine (takes_items hxs rest ?_).bind.mpr (takes_pure.mpr ⟨rfl, rfl⟩)
    -- the fuel is the length of the text, and every further item has at least its comma
    have := length_parts_lt (xs.map write) ']' rest
    rw [List.length_map] at this
    rw [List.length_append]
    omega

end Arrays

/-! ## Objects -/

section Objects

variable {member : String → σ → Reader σ} {d d' : σ} {members' : List (String × Value)}

/-- A colon is taken. -/
lemma takes_colon (rest : List Char) : Takes colon (':' :: rest) () rest := takes_peek.mpr rfl

/-- A closing brace ends the members. -/
lemma takes_nextKey_end (first : Bool) (rest : List Char) :
    Takes (nextKey first) ('\x7d' :: rest) none rest :=
  takes_peek.mpr (takes_set.mpr (takes_pure.mpr ⟨rfl, rfl⟩))

/-- The first key needs no comma. -/
lemma takes_nextKey_first (key : String) (rest : List Char) :
    Takes (nextKey true) (Json.stringChars key ++ rest) (some key) rest := by
  rw [stringChars_append]
  exact takes_peek.mpr (takes_set.mpr (takes_map.mpr ⟨key, takes_stringRest key rest, rfl⟩))

/-- A comma leads to the next key. -/
lemma takes_nextKey_comma (key : String) (rest : List Char) :
    Takes (nextKey false) (',' :: (Json.stringChars key ++ rest)) (some key) rest := by
  rw [stringChars_append]
  exact takes_peek.mpr (takes_set.mpr (takes_peek.mpr
    (takes_set.mpr (takes_map.mpr ⟨key, takes_stringRest key rest, rfl⟩))))

/-- The members, written one after the other, lead from one draft to another. -/
inductive Fills (member : String → σ → Reader σ) : List (String × Value) → σ → σ → Prop where
  | nil (d : σ) : Fills member [] d d
  | cons {key v d d' d''} {rest : List (String × Value)} :
    Reads (member key d) (':' :: v.chars) d' → Fills member rest d' d'' →
      Fills member ((key, v) :: rest) d d''

/-- Members that fill a draft are read one after the other, up to the brace. -/
lemma takes_members (h : Fills member members' d d') (rest : List Char) {fuel : Nat}
    (hf : members'.length < fuel) :
    Takes (members member fuel false d)
      ((memberChars members').flatMap (',' :: ·) ++ '\x7d' :: rest) d' rest := by
  induction h generalizing fuel with
  | nil d =>
    obtain ⟨fuel, rfl⟩ := Nat.exists_eq_succ_of_ne_zero (Nat.ne_of_gt hf)
    exact (takes_nextKey_end false rest).bind.mpr (takes_pure.mpr ⟨rfl, rfl⟩)
  | cons hmember _ ih =>
    obtain ⟨fuel, rfl⟩ := Nat.exists_eq_succ_of_ne_zero (Nat.ne_of_gt (Nat.zero_lt_of_lt hf))
    have hrest := ih (Nat.lt_of_succ_lt_succ hf)
    rw [memberChars, List.flatMap_cons, List.append_assoc, List.cons_append, List.append_assoc]
    refine (takes_nextKey_comma _ _).bind.mpr ?_
    exact (hmember _ (stops_parts (by decide) _ rest)).bind.mpr hrest

/-- Members that fill a draft are read behind the opening brace. -/
lemma takes_objectRest (h : Fills member members' d d') (rest : List Char) :
    Takes (objectRest member d) (commaSeparated (memberChars members') ++ '\x7d' :: rest) d'
      rest := by
  refine takes_get.mpr ?_
  cases h with
  | nil => exact (takes_nextKey_end true rest).bind.mpr (takes_pure.mpr ⟨rfl, rfl⟩)
  | @cons key v _ _ _ more hmember hmore =>
    rw [memberChars, commaSeparated_cons, List.append_assoc, List.append_assoc]
    refine (takes_nextKey_first _ _).bind.mpr ?_
    refine (hmember _ (stops_parts (by decide) _ rest)).bind.mpr (takes_members hmore rest ?_)
    -- as for arrays
    have := length_parts_lt (memberChars more) '\x7d' rest
    rw [length_memberChars] at this
    rw [List.length_append, List.length_append]
    omega

end Objects

/-! ## Typed values -/

section Typed

/-- The text of an object begins as a value. -/
lemma leads_object (members : List (String × Value)) : Leads (Value.object members).chars := by
  rw [Value.chars]
  exact ⟨'\x7b', _, rfl, by decide⟩

/-- The text of an array begins as a value. -/
lemma leads_array (items : List Value) : Leads (Value.array items).chars := by
  rw [Value.chars]
  exact ⟨'[', _, rfl, by decide⟩

/-- One level is left for what is nested. -/
lemma takes_descend (depth : Nat) (cs : List Char) : Takes (descend (depth + 1)) cs depth cs :=
  takes_pure.mpr ⟨rfl, rfl⟩

/-- An array of values that are read back is read back as a list. -/
lemma reads_sequence {depth : Nat} {item : Nat → Reader α} {write : α → Value} {xs : List α}
    (h : ∀ x ∈ xs, Leads (write x).chars ∧ Reads (item depth) (write x).chars x) :
    Reads (sequence (depth + 1) item) (Value.array (xs.map write)).chars xs := by
  intro rest _
  rw [Value.chars, itemChars_eq_map, List.map_map, List.cons_append, List.cons_append,
    List.append_assoc]
  have hitems : Takes (arrayRest (item depth))
      (commaSeparated (xs.map fun x => (write x).chars) ++ ']' :: rest) xs rest :=
    takes_arrayRest h rest
  exact takes_peek.mpr ((takes_descend depth _).bind.mpr (takes_set.mpr hitems))

/-- A word is taken by its letters. -/
lemma takes_word (letters rest : List Char) : Takes (word letters) (letters ++ rest) () rest := by
  induction letters with
  | nil => exact takes_pure.mpr ⟨rfl, rfl⟩
  | cons c letters ih =>
    refine takes_get.mpr ?_
    rw [List.cons_append]
    dsimp only
    rw [if_pos rfl]
    exact takes_set.mpr ih

/-- Null is read as an absent value. -/
lemma reads_optional_null (m : Reader α) : Reads (optional m) Value.null.chars none := by
  intro rest _
  rw [Value.chars]
  exact takes_peek.mpr (takes_set.mpr
    ((takes_word ['u', 'l', 'l'] rest).bind.mpr (takes_pure.mpr ⟨rfl, rfl⟩)))

/-- A value that does not begin as null is read as a present one. -/
lemma reads_optional {m : Reader α} {cs : List Char} {a : α} (hleads : Leads cs)
    (h : Reads m cs a) : Reads (optional m) cs (some a) := by
  intro rest hs
  have ha : Takes (some <$> m) (cs ++ rest) (some a) rest := takes_map.mpr ⟨a, h rest hs, rfl⟩
  refine takes_peek.mpr ?_
  rw [(hleads.append rest).dropWhile]
  obtain ⟨c, more, rfl, hc⟩ := hleads
  split
  case h_1 heq =>
    cases heq
    exact absurd (by decide) hc
  case h_2 => exact ha

/-- A value, or `null` in its place. -/
lemma reads_optional_getD {m : Reader α} {write : α → Value} {o : Option α}
    (h : ∀ a ∈ o, Leads (write a).chars ∧ Reads m (write a).chars a) :
    Reads (optional m) ((o.map write).getD .null).chars o := by
  cases o with
  | none => exact reads_optional_null m
  | some a => exact reads_optional (h a rfl).1 (h a rfl).2

/-- A string is read from the text of its value. -/
lemma reads_string_value (s : String) : Reads string (Value.string s).chars s := by
  rw [Value.chars]
  exact reads_string s

/-- The text of a string value begins as a value. -/
lemma leads_string (s : String) : Leads (Value.string s).chars := by
  rw [Value.chars]
  exact leads_stringChars s

/-- A string value is read from its text at any depth. -/
lemma reads_value_string (depth : Nat) (s : String) :
    Reads (value depth) (Value.string s).chars (.string s) := by
  intro rest _
  rw [Value.chars, stringChars_append]
  have h (array object : Reader Value) :
      Takes (valueWith array object) ('"' :: (s.toList.flatMap escapedChar ++ '"' :: rest))
        (.string s) rest :=
    takes_peek.mpr (takes_set.mpr (takes_map.mpr ⟨s, takes_stringRest s rest, rfl⟩))
  cases depth with
  | zero => exact h _ _
  | succ depth => exact h _ _

/-- A number value that is read back is read at any depth. -/
lemma reads_value_number (depth : Nat) {n : Number} (h : (Value.number n).ReadsBack) :
    Reads (value depth) (Value.number n).chars (.number n) := by
  intro rest hs
  rw [Value.chars]
  exact takes_value_of_number (Number.reads_of_readsBack h rest hs)

/-- A signed word of 64 bits is read back. -/
lemma reads_int64 {n : Int} (low : -0x8000000000000000 ≤ n) (high : n < 0x8000000000000000) :
    Reads int64 (Number.intText n) n := by
  intro rest hs
  have fits : FitsWord n := ⟨low, by omega⟩
  have hn : Takes number (Number.intText n ++ rest) (.integer n fits) rest :=
    Number.reads_of_readsBack (Number.readsBack_integer n fits) rest hs
  have hleads := leadsNumber_of_takes hn
  refine takes_peek.mpr ?_
  rw [hleads.leads.dropWhile]
  obtain ⟨c, more, hcs, hc⟩ := hleads
  rw [hcs] at hn ⊢
  dsimp only
  rw [if_pos hc]
  refine hn.bind.mpr ?_
  dsimp only
  rw [if_pos high]
  exact takes_pure.mpr ⟨rfl, rfl⟩

end Typed

end Reader

end GridRows.Json
