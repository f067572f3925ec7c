import GridRows.Number.Decimal
import GridRows.Text.Hex

/-!
# Parts of a TOML document

Blanks, comments, keys, strings, numbers and dates.  A scanner takes what it reads off the front of
the text, or refuses.
-/

namespace GridRows.Toml

/-- A scanner takes its value off the front of the characters that are left. -/
abbrev Scanner (α : Type) := StateT (List Char) Option α

namespace Scanner

/-! ## Blanks and comments -/

/-- A blank inside a line. -/
def isBlank (c : Char) : Bool := c = ' ' || c = '\t'

/-- Skips the blanks at the front. -/
def blanks : Scanner Unit := modify (·.dropWhile isBlank)

/-- Takes this character. -/
def char (c : Char) : Scanner Unit := do
  match ← get with
  | found :: rest => if found = c then set rest else failure
  | [] => failure

/-- Takes these characters. -/
def word : List Char → Scanner Unit
  | [] => return
  | c :: rest => do
    char c
    word rest

/-- A character that may stand in comments and strings: a tab, or no control character. -/
def isText (c : Char) : Bool := c = '\t' || (0x20 ≤ c.toNat && c.toNat ≠ 0x7F)

/-- Takes the end of a line. -/
def newline : Scanner Unit := do
  match ← get with
  | '\n' :: rest => set rest
  | '\r' :: '\n' :: rest => set rest
  | _ => failure

/-- Takes a comment, up to the end of its line. -/
def comment : Scanner Unit := do
  char '#'
  modify (·.dropWhile isText)

/-- Takes blanks and a comment up to and with the end of the line or of the text. -/
def lineEnd : Scanner Unit := do
  blanks
  if (← get).head? = some '#' then comment
  if (← get).isEmpty then return else newline

/-- Skips blanks, comments and ends of lines, at most `fuel` of each. -/
def gaps : Nat → Scanner Unit
  | 0 => return
  | fuel + 1 => do
    blanks
    match ← get with
    | '#' :: _ =>
      comment
      gaps fuel
    | '\n' :: _ =>
      newline
      gaps fuel
    | '\r' :: _ =>
      newline
      gaps fuel
    | _ => return

/-- Skips blanks, comments and ends of lines. -/
def gap : Scanner Unit := do gaps (← get).length

/-! ## Strings -/

/-- What comes next inside a string: its end after a few more characters, or some characters. -/
inductive Step where
  | done (last rest : List Char)
  | text (found rest : List Char)

/-- The character of a code point, if it is one. -/
def scalar? (n : Nat) : Option Char :=
  if h : n.isValidChar then some (Char.ofNatAux n h) else none

/-- The character of an escape whose code point has the given number of digits. -/
def numbered (digits : Nat) (cs : List Char) : Option Step := do
  let found := cs.take digits
  if found.length ≠ digits then none
  else
    let c ← scalar? (← Text.hexNat? found)
    return .text [c] (cs.drop digits)

/-- The step of an escape after its backslash. -/
def escape : List Char → Option Step
  | '"' :: rest => some (.text ['"'] rest)
  | '\\' :: rest => some (.text ['\\'] rest)
  | 'b' :: rest => some (.text ['\x08'] rest)
  | 'f' :: rest => some (.text ['\x0c'] rest)
  | 'n' :: rest => some (.text ['\n'] rest)
  | 'r' :: rest => some (.text ['\r'] rest)
  | 't' :: rest => some (.text ['\t'] rest)
  | 'u' :: rest => numbered 4 rest
  | 'U' :: rest => numbered 8 rest
  | _ => none

/-- One step inside a string of one line between double quotes. -/
def basicStep : List Char → Option Step
  | '"' :: rest => some (.done [] rest)
  | '\\' :: rest => escape rest
  | c :: rest => if isText c then some (.text [c] rest) else none
  | [] => none

/-- One step inside a string of one line between single quotes. -/
def literalStep : List Char → Option Step
  | '\x27' :: rest => some (.done [] rest)
  | c :: rest => if isText c then some (.text [c] rest) else none
  | [] => none

/--
One step at a run of quotes inside a string of several lines: up to two belong to it, three close it,
and up to two more right before those belong to it.
-/
def quoteRun (quote : Char) (cs : List Char) : Option Step :=
  let run := cs.takeWhile (· = quote)
  let rest := cs.drop run.length
  if run.length < 3 then some (.text run rest)
  else if run.length ≤ 5 then some (.done (run.drop 3) rest)
  else none

/-- The end of a line inside a string of several lines, or a character of it. -/
def linesStep : List Char → Option Step
  | '\n' :: rest => some (.text ['\n'] rest)
  | '\r' :: '\n' :: rest => some (.text ['\n'] rest)
  | c :: rest => if isText c then some (.text [c] rest) else none
  | [] => none

/-- The text after the blanks and ends of lines at its front. -/
def dropLines : List Char → List Char
  | '\r' :: '\n' :: rest => dropLines rest
  | c :: rest => if c = '\n' ∨ isBlank c then dropLines rest else c :: rest
  | [] => []

/-- The rest of the text after a backslash that ends its line: the next lines' blanks are dropped. -/
def afterFold (cs : List Char) : Option (List Char) :=
  match newline.run (cs.dropWhile isBlank) with
  | some (_, rest) => some (dropLines rest)
  | none => none

/-- One step inside a string of several lines between double quotes. -/
def basicLinesStep : List Char → Option Step
  | '"' :: rest => quoteRun '"' ('"' :: rest)
  | '\\' :: rest =>
    match afterFold rest with
    | some rest => some (.text [] rest)
    | none => escape rest
  | cs => linesStep cs

/-- One step inside a string of several lines between single quotes. -/
def literalLinesStep : List Char → Option Step
  | '\x27' :: rest => quoteRun '\x27' ('\x27' :: rest)
  | cs => linesStep cs

/-- The characters up to the end of a string, by at most `fuel` steps. -/
def collect (step : List Char → Option Step) :
    Nat → List Char → Option (List Char × List Char)
  | 0, _ => none
  | fuel + 1, cs => do
    match ← step cs with
    | .done last rest => return (last, rest)
    | .text found rest =>
      let (more, rest) ← collect step fuel rest
      return (found ++ more, rest)

/-- Takes the rest of a string by the given steps. -/
def stringRest (step : List Char → Option Step) : Scanner String := fun cs => do
  let (found, rest) ← collect step (cs.length + 1) cs
  return (String.ofList found, rest)

/-- Takes the end of a line that may follow an opening run of three quotes. -/
def firstNewline : Scanner Unit := newline <|> pure ()

/-- Takes a string of one line. -/
def lineString : Scanner String := do
  match ← get with
  | '"' :: rest =>
    set rest
    stringRest basicStep
  | '\x27' :: rest =>
    set rest
    stringRest literalStep
  | _ => failure

/-- Takes a string of one or several lines. -/
def string : Scanner String := do
  match ← get with
  | '"' :: '"' :: '"' :: rest =>
    set rest
    firstNewline
    stringRest basicLinesStep
  | '\x27' :: '\x27' :: '\x27' :: rest =>
    set rest
    firstNewline
    stringRest literalLinesStep
  | _ => lineString

/-! ## Keys -/

/-- The nesting that tables, arrays and keys may have. -/
def maxDepth : Nat := 79

/-- A character of a key without quotes. -/
def isBare (c : Char) : Bool := c.isAlphanum || c = '-' || c = '_'

/-- Takes one part of a key. -/
def simpleKey : Scanner String := do
  match (← get).takeWhile isBare with
  | [] => lineString
  | found =>
    modify (·.drop found.length)
    return String.ofList found

/-- Takes the parts of a key that are left, each after a point, at most `fuel` of them. -/
def moreKeys : Nat → Scanner (List String)
  | 0 => failure
  | fuel + 1 => do
    match ← get with
    | '.' :: rest =>
      set rest
      blanks
      let part ← simpleKey
      blanks
      return part :: (← moreKeys fuel)
    | _ => return []

/-- Takes a key of one or more parts with points between them, and the blanks around them. -/
def key : Scanner (List String) := do
  blanks
  let first ← simpleKey
  blanks
  return first :: (← moreKeys maxDepth)

/-! ## Numbers and dates -/

/-- The digits at the front, with single underscores between them allowed but not kept. -/
def spaced (isDigit : Char → Bool) : List Char → List Char × List Char
  | '_' :: c :: rest =>
    if isDigit c then
      let (found, rest) := spaced isDigit rest
      (c :: found, rest)
    else ([], '_' :: c :: rest)
  | c :: rest =>
    if isDigit c then
      let (found, rest) := spaced isDigit rest
      (c :: found, rest)
    else ([], c :: rest)
  | [] => ([], [])

/-- Takes at least one digit, with single underscores between the digits allowed. -/
def digits (isDigit : Char → Bool) : Scanner (List Char) := fun cs =>
  match cs with
  | c :: _ => if isDigit c then some (spaced isDigit cs) else none
  | [] => none

/-- Takes an optional sign. -/
def sign : Scanner (List Char) := do
  match ← get with
  | '-' :: rest =>
    set rest
    return ['-']
  | '+' :: rest =>
    set rest
    return ['+']
  | _ => return []

/-- Takes a decimal whole number, as its sign and digits; a leading zero stands alone. -/
def decimal : Scanner (List Char) := do
  let sign ← sign
  match ← get with
  | '0' :: rest =>
    set rest
    return sign ++ ['0']
  | _ => return sign ++ (← digits Char.isDigit)

/-- Takes the exponent of a number. -/
def exponent : Scanner (List Char) := do
  match ← get with
  | c :: rest =>
    if c = 'e' ∨ c = 'E' then
      set rest
      let sign ← sign
      return 'e' :: sign ++ (← digits Char.isDigit)
    else failure
  | [] => failure

/-- Takes the part of a number after its whole digits: a fraction, an exponent or both. -/
def fractionOrExponent : Scanner (List Char) := do
  match ← get with
  | '.' :: rest =>
    set rest
    let fraction ← digits Char.isDigit
    let exponent ← exponent <|> pure []
    return '.' :: fraction ++ exponent
  | _ => exponent

/-- Takes a number with a fraction or an exponent; one beyond all finite numbers must be negative. -/
def float : Scanner (Number.Extended Number.Format.double) := do
  let whole ← decimal
  let rest ← fractionOrExponent
  match Number.Decimal.ofChars? (whole ++ rest) with
  | some d =>
    match d.toExtended with
    | .infinite false => failure
    | x => return x
  | none => failure

/-- Takes the name of a value beside the numbers. -/
def namedFloat : Scanner (Number.Extended Number.Format.double) := do
  let sign ← sign
  (do
    word ['i', 'n', 'f']
    return .infinite (sign == ['-'])) <|> (do
    word ['n', 'a', 'n']
    return .nan)

/-- The whole number, if a signed word of 64 bits holds it. -/
def int64 (n : Int) : Scanner Int :=
  if -0x8000000000000000 ≤ n ∧ n < 0x8000000000000000 then return n else failure

/-- Takes digits of a base and gives the number they spell. -/
def based (base : Nat) : Scanner Int := do
  let found ← digits fun c => (Text.hexValue? c).any (· < base)
  let value := found.foldl (fun n c => base * n + (Text.hexValue? c).getD 0) 0
  int64 value

/-- Takes a whole number. -/
def integer : Scanner Int := do
  match ← get with
  | '0' :: 'x' :: rest =>
    set rest
    based 16
  | '0' :: 'o' :: rest =>
    set rest
    based 8
  | '0' :: 'b' :: rest =>
    set rest
    based 2
  | _ =>
    match ← decimal with
    | '-' :: found => int64 (-(Number.natOfDigits found : Int))
    | '+' :: found => int64 (Number.natOfDigits found)
    | found => int64 (Number.natOfDigits found)

/-- Takes exactly so many digits, whose number must lie between the bounds. -/
def field (width low high : Nat) : Scanner Nat := do
  let found := (← get).take width
  if found.length = width ∧ found.all Char.isDigit then
    modify (·.drop width)
    let n := Number.natOfDigits found
    if low ≤ n ∧ n ≤ high then return n else failure
  else failure

/-- The days of a month. -/
def daysOfMonth (year month : Nat) : Nat :=
  if month = 2 then
    if year % 4 = 0 ∧ (year % 100 ≠ 0 ∨ year % 400 = 0) then 29 else 28
  else if month = 4 ∨ month = 6 ∨ month = 9 ∨ month = 11 then 30
  else 31

/-- Takes a date. -/
def date : Scanner Unit := do
  let year ← field 4 0 9999
  char '-'
  let month ← field 2 1 12
  char '-'
  let _ ← field 2 1 (daysOfMonth year month)

/-- Takes a time of day. -/
def time : Scanner Unit := do
  let _ ← field 2 0 23
  char ':'
  let _ ← field 2 0 59
  char ':'
  let _ ← field 2 0 60
  (do
    char '.'
    let found := (← get).takeWhile Char.isDigit
    if found.isEmpty then failure
    modify (·.drop found.length)) <|> pure ()

/-- Takes the distance of a time from universal time. -/
def offset : Scanner Unit := do
  match ← get with
  | 'Z' :: rest => set rest
  | 'z' :: rest => set rest
  | c :: rest =>
    if c = '+' ∨ c = '-' then
      set rest
      let _ ← field 2 0 23
      char ':'
      let _ ← field 2 0 59
    else failure
  | [] => failure

/-- Takes the time that may follow a date. -/
def timeAfterDate : Scanner Unit := do
  match ← get with
  | c :: rest =>
    if c = 'T' ∨ c = 't' ∨ c = ' ' then
      set rest
      time
      offset <|> pure ()
    else failure
  | [] => failure

/-- Takes a date, a time or both, and gives its text. -/
def datetime : Scanner String := do
  let before ← get
  (do
    date
    timeAfterDate <|> pure ()) <|> time
  let after ← get
  return String.ofList (before.take (before.length - after.length))

end Scanner

end GridRows.Toml
