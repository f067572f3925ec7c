/-!
# UTF-8

Texts as bytes, bytes as texts, and the text that is shown for bytes that are none.
-/

namespace GridRows.Text

/-- The bytes of a text. -/
def utf8 (s : String) : List UInt8 := s.toUTF8.toList

/-- The text of bytes, if they are UTF-8. -/
def ofUtf8? (bytes : List UInt8) : Option String := String.fromUTF8? ⟨bytes.toArray⟩

/-! ## Bytes that are no text -/

/-- How many bytes follow the first one of a character; `none` if no character begins with it. -/
def followers? (first : UInt8) : Option Nat :=
  if first ≤ 0x7F then some 0
  else if 0xC2 ≤ first ∧ first ≤ 0xDF then some 1
  else if 0xE0 ≤ first ∧ first ≤ 0xEF then some 2
  else if 0xF0 ≤ first ∧ first ≤ 0xF4 then some 3
  else none

/-- Whether a byte may come second in a character: the code points that it leads to are characters
and have no shorter spelling. -/
def mayFollow (first second : UInt8) : Bool :=
  let low : UInt8 := if first = 0xE0 then 0xA0 else if first = 0xF0 then 0x90 else 0x80
  let high : UInt8 := if first = 0xED then 0x9F else if first = 0xF4 then 0x8F else 0xBF
  low ≤ second && second ≤ high

/-- The bytes that go on with a character after its first one, up to a count. -/
def followers (first : UInt8) (count : Nat) (rest : List UInt8) : List UInt8 :=
  match rest.take count with
  | second :: more =>
    if mayFollow first second then second :: more.takeWhile fun b => 0x80 ≤ b && b ≤ 0xBF else []
  | [] => []

/-- The character of a first byte and the bytes that follow it. -/
def charOfBytes (first : UInt8) (rest : List UInt8) : Char :=
  let lead := first.toNat % (0x80 >>> rest.length)
  Char.ofNat (rest.foldl (fun n b => 64 * n + b.toNat % 64) lead)

/-- The character that stands for bytes that are none. -/
def replacement : Char := Char.ofNat 0xFFFD

/-- The characters of bytes; a character that breaks off, and a byte that begins none, are shown by
one replacement. -/
def shownChars : List UInt8 → List Char
  | [] => []
  | first :: rest =>
    match followers? first with
    | none => replacement :: shownChars rest
    | some count =>
      let found := followers first count rest
      let c := if found.length = count then charOfBytes first found else replacement
      c :: shownChars (rest.drop found.length)
termination_by bytes => bytes.length
decreasing_by
  · simp
  · simp only [List.length_drop, List.length_cons]
    omega

/-- The text that is shown for bytes. -/
def shown (bytes : List UInt8) : String := String.ofList (shownChars bytes)

end GridRows.Text
