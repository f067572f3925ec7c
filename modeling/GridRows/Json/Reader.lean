import GridRows.Json.Literal
import GridRows.Json.ReadError
import GridRows.Json.Value

/-!
# Reading JSON

Readers take what they read off the front of the text, in a single pass, so the first fault in the
order of the text is the one reported.  Values that are kept have their numbers in range, their
escapes paired and their nesting bounded by a depth; values that are skipped only have to be
well-formed.
-/

namespace GridRows.Json

/-- A reader takes its value off the front of the characters that are left. -/
abbrev Reader (α : Type) := StateT (List Char) (Except ReadError) α

/-- The nesting that a text may have. -/
def maxDepth : Nat := 127

namespace Reader

/-- The blank characters between the parts of a text. -/
def isBlank (c : Char) : Bool := c = ' ' || c = '\t' || c = '\n' || c = '\r'

/-- Skips blanks and shows what follows, without taking it. -/
def peek : Reader (List Char) := do
  let rest := (← get).dropWhile isBlank
  set rest
  return rest

/-- The depth inside one more bracket. -/
def descend : Nat → Reader Nat
  | 0 => throw .malformed
  | depth + 1 => return depth

/-- Takes the rest of a fixed word. -/
def word : List Char → Reader Unit
  | [] => return
  | c :: more => do
    match ← get with
    | [] => throw .ended
    | found :: rest =>
      if found = c then
        set rest
        word more
      else throw .malformed

/-! ## Numbers -/

/-- Takes the digits at the front, of which there must be at least one. -/
def digits : Reader (List Char) := do
  let cs ← get
  match cs.takeWhile Char.isDigit with
  | [] => throw (if cs.isEmpty then .ended else .malformed)
  | found =>
    set (cs.dropWhile Char.isDigit)
    return found

/-- Takes the digits before the point; a leading zero stands alone. -/
def wholeDigits : Reader (List Char) := do
  let found ← digits
  if found.length ≠ 1 ∧ found.head? = some '0' then throw .malformed
  return found

/-- Takes the part after a point, if there is a point. -/
def fraction : Reader (Option (List Char)) := do
  match ← get with
  | '.' :: rest =>
    set rest
    some <$> digits
  | _ => return none

/-- Takes the exponent, if there is one. -/
def exponent : Reader (Option (Bool × List Char)) := do
  match ← get with
  | c :: rest =>
    if c = 'e' ∨ c = 'E' then
      let (negative, rest) := Number.Decimal.takeSign rest
      set rest
      return some (negative, ← digits)
    else return none
  | [] => return none

/-- Takes the parts of a number. -/
def literal : Reader Literal := do
  let negative ← (do
    match ← get with
    | '-' :: rest =>
      set rest
      return true
    | _ => return false : Reader Bool)
  let whole ← wholeDigits
  let fraction ← fraction
  let exponent ← exponent
  return ⟨negative, whole, fraction, exponent⟩

/-- Takes a number. -/
def number : Reader Number := do
  match (← literal).toNumber? with
  | some n => return n
  | none => throw .malformed

/-- Takes a number without looking at its value. -/
def skipNumber : Reader Unit := do
  try discard literal
  catch _ => throw .malformed

/-! ## Strings -/

/-- The fault of an escape whose digits do not come: the text ends if less than four bytes are left. -/
def shortEscape (cs : List Char) : ReadError :=
  if (String.ofList cs).utf8ByteSize < 4 then .ended else .malformed

/-- The code unit of four hexadecimal digits at the front, and what follows them. -/
def codeUnit : List Char → Except ReadError (Nat × List Char)
  | a :: b :: c :: d :: rest =>
    match Text.hexNat? [a, b, c, d] with
    | some n => .ok (n, rest)
    | none => .error (shortEscape (a :: b :: c :: d :: rest))
  | cs => .error (shortEscape cs)

/-- The character that a letter stands for after a backslash. -/
def escapedLetter? (c : Char) : Option Char :=
  if c = '"' ∨ c = '\\' ∨ c = '/' then some c
  else if c = 'b' then some '\x08'
  else if c = 'f' then some '\x0c'
  else if c = 'n' then some '\n'
  else if c = 'r' then some '\r'
  else if c = 't' then some '\t'
  else none

/--
The second unit of a pair and what follows it.  It must be an escape right behind the first unit,
in the range of second units.
-/
def secondUnit : List Char → Except ReadError (Nat × List Char)
  | [] => .error .ended
  | '\\' :: [] => .error .ended
  | '\\' :: 'u' :: rest => do
    let (unit, rest) ← codeUnit rest
    if 0xDC00 ≤ unit ∧ unit ≤ 0xDFFF then return (unit, rest) else throw .malformed
  | _ => .error .malformed

/--
The character of a unicode escape after its `u`, and what follows it.  A unit of a pair that stands
alone is no character.
-/
def escapedUnit (cs : List Char) : Except ReadError (Char × List Char) := do
  let (unit, rest) ← codeUnit cs
  if 0xDC00 ≤ unit ∧ unit ≤ 0xDFFF then throw .malformed
  else if 0xD800 ≤ unit ∧ unit ≤ 0xDBFF then
    let (second, rest) ← secondUnit rest
    return (Char.ofNat (0x10000 + (unit - 0xD800) * 0x400 + (second - 0xDC00)), rest)
  else return (Char.ofNat unit, rest)

/-- What comes next inside a string: its end, or one more character. -/
inductive StringStep where
  | done (rest : List Char)
  | char (c : Char) (rest : List Char)

/-- Takes one step inside a string. -/
def stringStep : List Char → Except ReadError StringStep
  | [] => .error .ended
  | '"' :: rest => .ok (.done rest)
  | '\\' :: [] => .error .ended
  | '\\' :: 'u' :: rest => do
    let (c, rest) ← escapedUnit rest
    return .char c rest
  | '\\' :: letter :: rest =>
    match escapedLetter? letter with
    | some c => .ok (.char c rest)
    | none => .error .malformed
  | c :: rest => if c.toNat < 0x20 then .error .malformed else .ok (.char c rest)

/-- Takes one step inside a string whose escapes need not stand for characters. -/
def skipStep : List Char → Except ReadError StringStep
  | '\\' :: 'u' :: rest => do
    let (_, rest) ← codeUnit rest
    return .char 'u' rest
  | cs => stringStep cs

/-- The characters up to the end of a string, by at most `fuel` steps. -/
def stringChars (step : List Char → Except ReadError StringStep) :
    Nat → List Char → Except ReadError (List Char × List Char)
  | 0, _ => .error .ended
  | fuel + 1, cs => do
    match ← step cs with
    | .done rest => return ([], rest)
    | .char c rest =>
      let (more, rest) ← stringChars step fuel rest
      return (c :: more, rest)

/-- Takes the rest of a string after its opening quote. -/
def stringRest : Reader String := do
  let cs ← get
  let (found, rest) ← stringChars stringStep (cs.length + 1) cs
  set rest
  return String.ofList found

/-- Skips the rest of a string after its opening quote. -/
def skipStringRest : Reader Unit := do
  let cs ← get
  let (_, rest) ← stringChars skipStep (cs.length + 1) cs
  set rest

/-! ## Arrays and objects -/

/--
Whether another item of an array follows; if so, the comma before it is taken.  `first` tells that
none was read yet.
-/
def nextItem (first : Bool) : Reader Bool := do
  match ← peek with
  | [] => throw .ended
  | ']' :: _ => return false
  | c :: rest =>
    if first then return true
    else if c = ',' then
      set rest
      match ← peek with
      | [] => throw .ended
      | ']' :: _ => throw .malformed
      | _ => return true
    else throw .malformed

/-- Takes the end of an array; whatever else stands there, the array has too many items. -/
def endArray : Reader Unit := do
  match ← peek with
  | [] => throw .ended
  | ']' :: rest => set rest
  | _ => throw .malformed

/-- The items of an array after its opening bracket, at most `fuel` of them. -/
def items {α : Type} (item : Reader α) : Nat → Bool → Reader (List α)
  | 0, _ => throw .ended
  | fuel + 1, first => do
    if ← nextItem first then
      let value ← item
      return value :: (← items item fuel false)
    else return []

/-- The items of an array after its opening bracket, and its end. -/
def arrayRest {α : Type} (item : Reader α) : Reader (List α) := do
  let found ← items item ((← get).length + 1) true
  endArray
  return found

/--
The key of the next member of an object, or `none` at its end, which is taken.  `first` tells that
no member was read yet.
-/
def nextKey (first : Bool) : Reader (Option String) := do
  match ← peek with
  | [] => throw .ended
  | '\x7d' :: rest =>
    set rest
    return none
  | c :: rest =>
    if first then
      if c = '"' then
        set rest
        some <$> stringRest
      else throw .malformed
    else if c = ',' then
      set rest
      match ← peek with
      | [] => throw .ended
      | '"' :: rest =>
        set rest
        some <$> stringRest
      | _ => throw .malformed
    else throw .malformed

/-- Takes the colon between the key and the value of a member. -/
def colon : Reader Unit := do
  match ← peek with
  | [] => throw .ended
  | ':' :: rest => set rest
  | _ => throw .malformed

/--
The members of an object after its opening brace, at most `fuel` of them, taken into `state` one
after the other.  `member` takes the colon and the value.
-/
def members {σ : Type} (member : String → σ → Reader σ) : Nat → Bool → σ → Reader σ
  | 0, _, _ => throw .ended
  | fuel + 1, first, state => do
    match ← nextKey first with
    | none => return state
    | some key =>
      let state ← member key state
      members member fuel false state

/-- The members of an object after its opening brace, up to and with its end. -/
def objectRest {σ : Type} (member : String → σ → Reader σ) (state : σ) : Reader σ := do
  members member ((← get).length + 1) true state

/-! ## Values -/

/--
Takes a value, given how the rest of an array and of an object is taken after the opening bracket.
-/
def valueWith (array object : Reader Value) : Reader Value := do
  match ← peek with
  | [] => throw .ended
  | 'n' :: rest =>
    set rest
    word ['u', 'l', 'l']
    return .null
  | 't' :: rest =>
    set rest
    word ['r', 'u', 'e']
    return .boolean true
  | 'f' :: rest =>
    set rest
    word ['a', 'l', 's', 'e']
    return .boolean false
  | '"' :: rest =>
    set rest
    .string <$> stringRest
  | '[' :: rest =>
    set rest
    array
  | '\x7b' :: rest =>
    set rest
    object
  | c :: _ => if c = '-' ∨ c.isDigit then .number <$> number else throw .malformed

/-- Takes the rest of a member and adds it to the members before it. -/
def valueMember (item : Reader Value) (key : String) (found : Members) : Reader Members := do
  colon
  return found.insert key (← item)

/--
Takes a value that may be nested `depth` deep.  Objects are kept sorted by key; of members with the
same key the last one counts.
-/
def value : Nat → Reader Value
  | 0 => valueWith (throw .malformed) (throw .malformed)
  | depth + 1 =>
    valueWith (.array <$> arrayRest (value depth))
      (.object <$> objectRest (valueMember (value depth)) [])

/-- A bracket that is open while a value is skipped. -/
inductive Bracket where
  | square
  | curly
  deriving DecidableEq

/-- What follows a skipped value inside the brackets that are open, innermost first. -/
inductive SkipStep where
  /-- The outermost value is complete. -/
  | done
  /-- Another value follows inside these brackets. -/
  | next (stack : List Bracket)

/-- Skips the key of a member and its colon. -/
def skipKey : Reader Unit := do
  match ← peek with
  | [] => throw .ended
  | '"' :: rest =>
    set rest
    skipStringRest
    colon
  | _ => throw .malformed

/--
Skips from the end of a value, or from an opening bracket, to the start of the next value.  `opened`
tells that the innermost bracket has just been opened, so that no comma may follow.
-/
def skipToValue (opened : Bool) : List Bracket → Reader SkipStep
  | [] => return .done
  | bracket :: outer => do
    match ← peek with
    | [] => throw .ended
    | c :: rest =>
      if (c = ']' ∧ bracket = .square) ∨ (c = '\x7d' ∧ bracket = .curly) then
        set rest
        skipToValue false outer
      else
        if c = ',' ∧ ¬ opened then set rest
        else if ¬ opened then throw .malformed
        if bracket = .curly then skipKey
        return .next (bracket :: outer)

/-- Skips the start of a value: all of a scalar, or an opening bracket, which is returned. -/
def skipStart : Reader (Option Bracket) := do
  match ← peek with
  | [] => throw .ended
  | 'n' :: rest =>
    set rest
    word ['u', 'l', 'l']
    return none
  | 't' :: rest =>
    set rest
    word ['r', 'u', 'e']
    return none
  | 'f' :: rest =>
    set rest
    word ['a', 'l', 's', 'e']
    return none
  | '"' :: rest =>
    set rest
    skipStringRest
    return none
  | '[' :: rest =>
    set rest
    return some .square
  | '\x7b' :: rest =>
    set rest
    return some .curly
  | c :: _ =>
    if c = '-' ∨ c.isDigit then
      skipNumber
      return none
    else throw .malformed

/-- Skips values inside the open brackets until all are closed, starting at most `fuel` of them. -/
def skipInside : Nat → List Bracket → Reader Unit
  | 0, _ => throw .ended
  | fuel + 1, stack => do
    let bracket ← skipStart
    match ← skipToValue bracket.isSome (bracket.toList ++ stack) with
    | .done => return
    | .next stack => skipInside fuel stack

/-- Skips a value of any depth. -/
def skipValue : Reader Unit := do skipInside ((← get).length + 1) []

/-! ## Typed values -/

/-- Fails because the value at the front is not of the expected type. -/
def wrongType {α : Type} (expected : String) : Reader α := do
  let fail (found : Found) : Reader α := throw (.mismatch (.wrongType found expected))
  match ← peek with
  | [] => throw .ended
  | 'n' :: rest =>
    set rest
    word ['u', 'l', 'l']
    fail .null
  | 't' :: rest =>
    set rest
    word ['r', 'u', 'e']
    fail (.boolean true)
  | 'f' :: rest =>
    set rest
    word ['a', 'l', 's', 'e']
    fail (.boolean false)
  | '"' :: rest =>
    set rest
    fail (.string (← stringRest))
  | '[' :: _ => fail .sequence
  | '\x7b' :: _ => fail .map
  | c :: _ => if c = '-' ∨ c.isDigit then fail (.number (← number)) else throw .malformed

/-- Takes a string; `expected` names the type in the fault. -/
def stringAs (expected : String) : Reader String := do
  match ← peek with
  | '"' :: rest =>
    set rest
    stringRest
  | _ => wrongType expected

/-- Takes a string. -/
def string : Reader String := stringAs "a string"

/-- Takes a whole number that a signed word of 64 bits holds. -/
def int64 : Reader Int := do
  match ← peek with
  | [] => throw .ended
  | c :: _ =>
    if c = '-' ∨ c.isDigit then
      match ← number with
      | .integer n fits =>
        if n < 0x8000000000000000 then return n
        else throw (.mismatch (.outOfRange (.number (.integer n fits)) "i64"))
      | .float x => throw (.mismatch (.wrongType (.number (.float x)) "i64"))
    else wrongType "i64"

/-- Takes the word `null`, in place of a value of another type. -/
def unit : Reader Unit := do
  match ← peek with
  | 'n' :: rest =>
    set rest
    word ['u', 'l', 'l']
  | _ => wrongType "unit"

/-- Takes `null` as an absent value, and anything else by `present`. -/
def optional {α : Type} (present : Reader α) : Reader (Option α) := do
  match ← peek with
  | 'n' :: rest =>
    set rest
    word ['u', 'l', 'l']
    return none
  | _ => some <$> present

/-- Takes an array of values that may be nested `depth` deep, the array included. -/
def sequence {α : Type} (depth : Nat) (item : Nat → Reader α) : Reader (List α) := do
  match ← peek with
  | '[' :: rest =>
    let depth ← descend depth
    set rest
    arrayRest (item depth)
  | _ => wrongType "a sequence"

/-- Takes a whole text: one value between blanks. -/
def run {α : Type} (reader : Reader α) (text : String) : Except ReadError α := do
  let (found, rest) ← StateT.run reader text.toList
  if rest.all isBlank then return found else throw .malformed

end Reader

/-- Reads a text as a value. -/
def Value.read (text : String) : Except ReadError Value := Reader.run (Reader.value maxDepth) text

end GridRows.Json
