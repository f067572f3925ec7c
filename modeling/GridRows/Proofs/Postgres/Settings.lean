import GridRows.Postgres.ConnectionString
import GridRows.Proofs.Text.Words
import Mathlib.Data.List.Basic
import Mathlib.Data.List.Induction
import Mathlib.Data.List.TakeWhile

/-!
# Settings of connection strings

A connection string that is no URL is written with words (`Spaced`).  A word with an equals sign is a pair
of the key before the first one and the value behind it; any other word says nothing.  Of the pairs of one
key the last counts, so the settings are those of the last values (`foldl_set`): what other keys stand
between them makes no difference, nor what blanks do.

The main statement is `Settings.ofText_words`.
-/

namespace GridRows.Postgres

open Number (natOfDigits)
open Text (IsWord Spaced isBlank)

/-! ## Ports -/

/-- The text without a plus sign before it. -/
def portDigits (s : String) : List Char :=
  match s.toList with
  | '+' :: rest => rest
  | cs => cs

/-- A text is its digits, with or without a plus sign. -/
lemma toList_portDigits (s : String) :
    s.toList = portDigits s ∨ s.toList = '+' :: portDigits s := by
  unfold portDigits
  split
  · rename_i rest h
    exact .inr h
  · exact .inl rfl

/-- The digits of a port are found behind a plus sign, and without one. -/
lemma portDigits_eq {s : String} {digits : List Char} (hdigits : ∀ c ∈ digits, c.isDigit)
    (h : s.toList = digits ∨ s.toList = '+' :: digits) : portDigits s = digits := by
  unfold portDigits
  rcases h with h | h
  · rw [h]
    split
    · exact absurd (hdigits '+' List.mem_cons_self) (by decide)
    · rfl
  · rw [h]
    rfl

/-- A port is a number of sixteen bits, written with digits that a plus sign may precede. -/
lemma portOf?_eq_some {s : String} {n : Nat} :
    portOf? s = some n ↔ n < 0x10000 ∧ ∃ digits, digits ≠ [] ∧ (∀ c ∈ digits, c.isDigit) ∧
      natOfDigits digits = n ∧ (s.toList = digits ∨ s.toList = '+' :: digits) := by
  have hport : portOf? s = if portDigits s ≠ [] ∧ (portDigits s).all Char.isDigit ∧
      natOfDigits (portDigits s) < 0x10000 then some (natOfDigits (portDigits s)) else none := rfl
  rw [hport]
  constructor
  · intro h
    split at h
    · rename_i hdigits
      obtain ⟨hne, hall, hlt⟩ := hdigits
      cases h
      exact ⟨hlt, portDigits s, hne, List.all_eq_true.mp hall, rfl, toList_portDigits s⟩
    · cases h
  · rintro ⟨hlt, digits, hne, hall, rfl, h⟩
    rw [portDigits_eq hall h, if_pos ⟨hne, List.all_eq_true.mpr hall, hlt⟩]

/-! ## Words -/

/-- A key has no equals signs and no blanks. -/
def IsKey (s : String) : Prop := ∀ c ∈ s.toList, c ≠ '=' ∧ ¬ isBlank c

instance (s : String) : Decidable (IsKey s) :=
  List.decidableBAll (fun c => c ≠ '=' ∧ ¬ isBlank c) s.toList

/-- A value has no blanks; it may be empty, and may have equals signs. -/
def IsValue (s : String) : Prop := ∀ c ∈ s.toList, ¬ isBlank c

instance (s : String) : Decidable (IsValue s) :=
  List.decidableBAll (fun c => ¬ isBlank c) s.toList

/-- A word of a connection string: a key with its value, or without an equals sign. -/
inductive Word where
  | pair (key value : String) (hkey : IsKey key) (hvalue : IsValue value)
  | bare (token : String) (hne : token.toList ≠ []) (htoken : IsKey token)

namespace Word

/-- The word as it is written. -/
def chars : Word → List Char
  | pair key value _ _ => key.toList ++ '=' :: value.toList
  | bare token _ _ => token.toList

/-- The key and the value of the word, if it has them. -/
def pair? : Word → Option (String × String)
  | pair key value _ _ => some (key, value)
  | bare .. => none

/-- What is written for a word is one run of characters that are not blank. -/
lemma isWord_chars (w : Word) : IsWord w.chars := by
  cases w with
  | pair key value hkey hvalue =>
    refine ⟨List.append_ne_nil_of_right_ne_nil _ nofun, fun c hc => ?_⟩
    rcases List.mem_append.mp hc with hc | hc
    · exact (hkey c hc).2
    · rcases List.mem_cons.mp hc with rfl | hc
      · decide
      · exact hvalue c hc
  | bare token hne htoken => exact ⟨hne, fun c hc => (htoken c hc).2⟩

/-- What is read of a word is what was written. -/
lemma pair?_chars (w : Word) : Settings.pair? w.chars = w.pair? := by
  have hplain {s : String} (h : IsKey s) : ∀ c ∈ s.toList, decide (c ≠ '=') = true :=
    fun c hc => decide_eq_true (h c hc).1
  cases w with
  | pair key value hkey hvalue =>
    have hdrop : ('=' :: value.toList).dropWhile (· ≠ '=') = '=' :: value.toList := rfl
    have htake : ('=' :: value.toList).takeWhile (· ≠ '=') = [] := rfl
    rw [Settings.pair?, chars, List.dropWhile_append_of_pos (hplain hkey), hdrop,
      List.takeWhile_append_of_pos (hplain hkey), htake, List.append_nil, String.ofList_toList]
    exact congrArg (fun v => some (key, v)) String.ofList_toList
  | bare token hne htoken =>
    rw [Settings.pair?, chars, List.dropWhile_eq_nil_iff.mpr (hplain htoken)]
    rfl

/-- Every run of characters that are not blank is such a word. -/
lemma exists_chars {cs : List Char} (h : IsWord cs) : ∃ w : Word, w.chars = cs := by
  by_cases hequals : '=' ∈ cs
  · obtain ⟨key, value, rfl, hkey⟩ := List.eq_append_cons_of_mem hequals
    have hunbroken := List.forall_mem_append.mp h.unbroken
    refine ⟨.pair (String.ofList key) (String.ofList value) ?_ ?_, ?_⟩
    · rw [IsKey, String.toList_ofList]
      exact fun c hc => ⟨fun e => hkey (e ▸ hc), hunbroken.1 c hc⟩
    · rw [IsValue, String.toList_ofList]
      exact fun c hc => hunbroken.2 c (List.mem_cons_of_mem _ hc)
    · rw [chars, String.toList_ofList, String.toList_ofList]
  · refine ⟨.bare (String.ofList cs) ?_ ?_, String.toList_ofList⟩
    · rw [String.toList_ofList]
      exact h.nonempty
    · rw [IsKey, String.toList_ofList]
      exact fun c hc => ⟨fun e => hequals (e ▸ hc), h.unbroken c hc⟩

end Word

/-- The text is written with the words, with blanks between each two and at will around them. -/
def Written (words : List Word) (text : String) : Prop :=
  Spaced (words.map Word.chars) text.toList

/-- All words together are those of some text. -/
lemma exists_text (words : List Word) : ∃ text, Written words text := by
  have hwords : ∀ w ∈ words.map Word.chars, IsWord w :=
    List.forall_mem_map.mpr fun w _ => w.isWord_chars
  obtain ⟨cs, hspaced⟩ := Text.exists_spaced hwords
  refine ⟨String.ofList cs, ?_⟩
  rwa [Written, String.toList_ofList]

/-- Every text is written with words. -/
lemma exists_written (text : String) : ∃ words, Written words text := by
  suffices h : ∀ {ws cs}, Spaced ws cs → ∃ words : List Word, words.map Word.chars = ws by
    have hspaced : Spaced (Text.words text.toList) text.toList := Text.words_eq_iff.mp rfl
    obtain ⟨words, hwords⟩ := h hspaced
    exact ⟨words, (congrArg (Spaced · text.toList) hwords).mpr hspaced⟩
  intro ws cs h
  induction h with
  | nil _ => exact ⟨[], rfl⟩
  | cons _ hword _ _ ih =>
    obtain ⟨w, rfl⟩ := Word.exists_chars hword
    obtain ⟨words, rfl⟩ := ih
    exact ⟨w :: words, rfl⟩

/-! ## Pairs -/

/-- The values of the pairs with the key, in their order. -/
def valuesOf (pairs : List (String × String)) (key : String) : List String :=
  (pairs.filter (·.1 = key)).map Prod.snd

/-- A pair behind the others adds its value to those of its key. -/
lemma valuesOf_concat (pairs : List (String × String)) (key value name : String) :
    valuesOf (pairs ++ [(key, value)]) name =
      valuesOf pairs name ++ if key = name then [value] else [] := by
  rw [valuesOf, List.filter_append, List.map_append]
  by_cases h : key = name
  · simp [valuesOf, h]
  · simp [valuesOf, h]

namespace Settings

/-- The settings in which the last value of each key counts. -/
def ofLast (values : String → List String) : Settings where
  host := (values "host").getLast?
  port := (values "port").getLast?.bind portOf?
  user := (values "user").getLast?
  password := (values "password").getLast?
  database := (values "dbname").getLast?

/-- Of all pairs that are taken in the last of each key counts. -/
lemma foldl_set (pairs : List (String × String)) :
    pairs.foldl (fun s pair => s.set pair.1 pair.2) {} = ofLast (valuesOf pairs) := by
  induction pairs using List.reverseRecOn with
  | nil => rfl
  | append_singleton pairs pair ih =>
    obtain ⟨key, value⟩ := pair
    have hlast (name : String) : (valuesOf (pairs ++ [(key, value)]) name).getLast? =
        if key = name then some value else (valuesOf pairs name).getLast? := by
      rw [valuesOf_concat]
      split
      · exact List.getLast?_concat
      · rw [List.append_nil]
    rw [List.foldl_append, ih]
    change (ofLast (valuesOf pairs)).set key value = _
    rw [set]
    -- one case for each known key, and one for all others
    split_ifs with hhost hport huser hpassword hdatabase
    all_goals
      simp only [ofLast, hlast]
      simp [*]

/-- The settings are those of the last values that are written. -/
lemma ofWords_written {words : List Word} {text : String} (h : Written words text) :
    ofWords text = ofLast (valuesOf (words.filterMap Word.pair?)) := by
  rw [ofWords, h.words_eq, List.filterMap_map, ← foldl_set]
  congr 1
  exact List.filterMap_congr fun w _ => w.pair?_chars

/-! ## URLs -/

/-- The text begins as the URL of a server does. -/
def IsUrl (text : String) : Prop :=
  "postgres://".toList <+: text.toList ∨ "postgresql://".toList <+: text.toList

instance (text : String) : Decidable (IsUrl text) := instDecidableOr

/-- The two schemes are those that are known. -/
lemma isUrl_iff {text : String} :
    IsUrl text ↔ ∃ scheme ∈ schemes, scheme.toList <+: text.toList := by
  simp [IsUrl, schemes]

/-- What stands behind a scheme is found exactly in a URL. -/
lemma isSome_afterScheme? {text : String} : (afterScheme? text).isSome ↔ IsUrl text := by
  rw [afterScheme?, List.findSome?_isSome_iff, isUrl_iff]
  refine exists_congr fun scheme => and_congr_right fun _ => ?_
  rw [← List.isPrefixOf_iff_prefix]
  split
  · rename_i h
    exact iff_of_true rfl h
  · rename_i h
    exact iff_of_false nofun h

/-- A URL is kept whole, and nothing else is set. -/
lemma ofText_url {text : String} (h : IsUrl text) : ofText text = { url := some text } :=
  if_pos (isSome_afterScheme?.mpr h)

/-- A text that is no URL sets the last value of each key. -/
lemma ofText_written {words : List Word} {text : String} (h : Written words text)
    (hurl : ¬ IsUrl text) : ofText text = ofLast (valuesOf (words.filterMap Word.pair?)) := by
  rw [ofText, if_neg (mt isSome_afterScheme?.mp hurl), ofWords_written h]

/--
Every text is written with words, and all words are those of some text.  The host, the user, the password
and the database are the last values that are written for them, if there are any.  The port is the last
value that is written for it if this is a number of sixteen bits, and no value before it counts.  So the
settings are the same for every order of the pairs in which those of one key keep theirs, with any blanks,
other words and other keys between them.  A URL is kept as it is, and nothing else is set.
-/
theorem ofText_words :
    (∀ text, ∃ words, Written words text) ∧
    (∀ words, ∃ text, Written words text) ∧
    (∀ words text, Written words text → ¬ IsUrl text →
      let values := valuesOf (words.filterMap Word.pair?)
      ofText text = {
        url := none
        host := (values "host").getLast?
        port := (values "port").getLast?.bind portOf?
        user := (values "user").getLast?
        password := (values "password").getLast?
        database := (values "dbname").getLast? }) ∧
    (∀ s n, portOf? s = some n ↔ n < 0x10000 ∧ ∃ digits, digits ≠ [] ∧
      (∀ c ∈ digits, c.isDigit) ∧ natOfDigits digits = n ∧
      (s.toList = digits ∨ s.toList = '+' :: digits)) ∧
    (∀ words words' text text', Written words text → Written words' text' →
      ¬ IsUrl text → ¬ IsUrl text' →
      (∀ key, valuesOf (words.filterMap Word.pair?) key =
        valuesOf (words'.filterMap Word.pair?) key) → ofText text = ofText text') ∧
    ∀ text, IsUrl text → ofText text = { url := some text } := by
  refine ⟨exists_written, exists_text, fun words text h hurl => ofText_written h hurl,
    fun s n => portOf?_eq_some,
    fun words words' text text' h h' hurl hurl' hvalues => ?_, fun text => ofText_url⟩
  rw [ofText_written h hurl, ofText_written h' hurl', funext hvalues]

/-- The host and the port are given twice, and the second port is no number. -/
def olympics : List Word :=
  [.pair "host" "db" (by decide) (by decide), .pair "host" "" (by decide) (by decide),
    .pair "password" "a=b" (by decide) (by decide), .pair "port" "6543" (by decide) (by decide),
    .bare "sslmode" (by decide) (by decide), .pair "port" "x" (by decide) (by decide)]

/-- The ports may as well stand before the hosts. -/
theorem ofText_words_olympics :
    ofText "host=db host= password=a=b port=6543  sslmode port=x" =
      { host := some "", password := some "a=b" } ∧
    ofText " port=6543 sslmode\tport=x host=db host= password=a=b\n" =
      ofText "host=db host= password=a=b port=6543  sslmode port=x" ∧
    ofText "postgres://db host=db2" = { url := some "postgres://db host=db2" } := by
  obtain ⟨-, -, hvalues, -, hsame, hurl⟩ := ofText_words
  have hwritten : Written olympics "host=db host= password=a=b port=6543  sslmode port=x" :=
    Text.words_eq_iff.mp (by decide)
  have hrotated : Written (olympics.rotate 3)
      " port=6543 sslmode\tport=x host=db host= password=a=b\n" :=
    Text.words_eq_iff.mp (by decide)
  have hkeys (key : String) : valuesOf ((olympics.rotate 3).filterMap Word.pair?) key =
      valuesOf (olympics.filterMap Word.pair?) key := by
    have hpairs : olympics.filterMap Word.pair? =
        [("host", "db"), ("host", ""), ("password", "a=b"), ("port", "6543"), ("port", "x")] := rfl
    have hpairs' : (olympics.rotate 3).filterMap Word.pair? =
        [("port", "6543"), ("port", "x"), ("host", "db"), ("host", ""), ("password", "a=b")] := rfl
    rw [hpairs, hpairs']
    by_cases hport : "port" = key
    · subst hport
      decide
    · simp [valuesOf, List.filter_cons, hport]
  exact ⟨(hvalues _ _ hwritten (by decide)).trans (by decide),
    hsame _ _ _ _ hrotated hwritten (by decide) (by decide) hkeys, hurl _ (by decide)⟩

end Settings

end GridRows.Postgres
