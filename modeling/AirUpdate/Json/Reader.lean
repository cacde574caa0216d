/-
  Air updates — reading JSON text.

  The reader accepts the texts of the JSON grammar and no others.  Each `read`
  function takes something from the start of the input and gives the rest
  back.  Values nest; their readers take a bound on the depth of calls, and
  `Json.ofText?` gives one that no text exceeds.
-/
import AirUpdate.Bytes
import AirUpdate.Json.Value

namespace AirUpdate.Json

/-! ## Blanks and digits -/

/-- The characters between tokens. -/
def isBlank (c : Char) : Bool :=
  c = ' ' || c = '\t' || c = '\n' || c = '\r'

/-- The input without the blanks at its start. -/
def skipBlanks (cs : List Char) : List Char := cs.dropWhile isBlank

def isDecimal (c : Char) : Bool := '0' ≤ c && c ≤ '9'

def ofDecimals (digits : List Char) : Nat :=
  digits.foldl (fun n c => 10 * n + (c.toNat - 48)) 0

/-! ## Numbers -/

def readDigits (cs : List Char) : Option (List Char × List Char) :=
  match cs.takeWhile isDecimal with
  | [] => none
  | d :: ds => some (d :: ds, cs.dropWhile isDecimal)

/-- Takes the digits before the point: zero alone, or digits that do not start
    with zero. -/
def readWhole : List Char → Option (List Char × List Char)
  | '0' :: rest => some (['0'], rest)
  | cs => readDigits cs

/-- Takes a point and digits, if there is a point; says whether there was. -/
def readFraction : List Char → Option (Bool × List Char)
  | '.' :: rest => (readDigits rest).map fun r => (true, r.2)
  | cs => some (false, cs)

/-- Takes an optional sign. -/
def dropSign : List Char → List Char
  | '+' :: rest => rest
  | '-' :: rest => rest
  | cs => cs

/-- Takes an exponent, if there is one; says whether there was. -/
def readExponent : List Char → Option (Bool × List Char)
  | 'e' :: rest => (readDigits (dropSign rest)).map fun r => (true, r.2)
  | 'E' :: rest => (readDigits (dropSign rest)).map fun r => (true, r.2)
  | cs => some (false, cs)

/-- Takes a number without its sign. -/
def readUnsigned (cs : List Char) : Option (Option Nat × List Char) := do
  let (digits, rest) ← readWhole cs
  let (fraction, rest) ← readFraction rest
  let (exponent, rest) ← readExponent rest
  pure (if fraction || exponent then none else some (ofDecimals digits), rest)

/-- Takes a number; one with a sign is never natural. -/
def readNumber : List Char → Option (Option Nat × List Char)
  | '-' :: rest => (readUnsigned rest).map fun r => (none, r.2)
  | cs => readUnsigned cs

/-! ## Strings -/

/-- A piece of a string: a character, or a 16-bit unit given by its number. -/
inductive Piece where
  | char (c : Char)
  | unit (n : Nat)
  deriving DecidableEq, Repr

/-- The character of an escape that has a letter. -/
def escaped? : Char → Option Char
  | '\x22' => some '\x22'
  | '\\' => some '\\'
  | '/' => some '/'
  | 'b' => some '\x08'
  | 'f' => some '\x0c'
  | 'n' => some '\n'
  | 'r' => some '\r'
  | 't' => some '\t'
  | _ => none

/-- The unit with these four hexadecimal digits. -/
def unit? (a b c d : Char) : Option Nat := do
  pure (16 * (16 * (16 * (← hexValue? a) + (← hexValue? b)) + (← hexValue? c)) + (← hexValue? d))

/-- Takes the pieces of a string and the quote behind them. -/
def readPieces : List Char → Option (List Piece × List Char)
  | [] => none
  | '\x22' :: rest => some ([], rest)
  | '\\' :: 'u' :: a :: b :: c :: d :: rest => do
    let u ← unit? a b c d
    let (pieces, rest) ← readPieces rest
    pure (.unit u :: pieces, rest)
  | '\\' :: e :: rest => do
    let c ← escaped? e
    let (pieces, rest) ← readPieces rest
    pure (.char c :: pieces, rest)
  | c :: rest =>
    if c.toNat < 0x20 ∨ c = '\\' then none
    else do
      let (pieces, rest) ← readPieces rest
      pure (.char c :: pieces, rest)

/-- Whether a unit is the first half of a pair. -/
def isHighSurrogate (n : Nat) : Bool := decide (0xd800 ≤ n) && decide (n < 0xdc00)

/-- Whether a unit is the second half of a pair. -/
def isLowSurrogate (n : Nat) : Bool := decide (0xdc00 ≤ n) && decide (n < 0xe000)

/-- The text of the pieces of a string: two units that are a pair are one
    character, and half a pair is none. -/
def textOf? : List Piece → Option (List Char)
  | [] => some []
  | .char c :: rest => (textOf? rest).map (c :: ·)
  | .unit n :: rest =>
    if isLowSurrogate n then none
    else if isHighSurrogate n then
      match rest with
      | .unit m :: rest =>
        if isLowSurrogate m then
          (textOf? rest).map (Char.ofNat (0x10000 + 0x400 * (n - 0xd800) + (m - 0xdc00)) :: ·)
        else none
      | _ => none
    else (textOf? rest).map (Char.ofNat n :: ·)

/-- Takes a string whose first quote is gone. -/
def readString (cs : List Char) : Option (Option String × List Char) :=
  (readPieces cs).map fun r => ((textOf? r.1).map String.ofList, r.2)

/-! ## Values -/

/-- Takes exactly these characters. -/
def readWord : List Char → List Char → Option (List Char)
  | [], cs => some cs
  | w :: ws, c :: cs => if w = c then readWord ws cs else none
  | _ :: _, [] => none

mutual

def readValue : Nat → List Char → Option (Json × List Char)
  | 0, _ => none
  | depth + 1, cs =>
    match skipBlanks cs with
    | 'n' :: rest => (readWord ['u', 'l', 'l'] rest).map fun rest => (.null, rest)
    | 't' :: rest => (readWord ['r', 'u', 'e'] rest).map fun rest => (.bool true, rest)
    | 'f' :: rest => (readWord ['a', 'l', 's', 'e'] rest).map fun rest => (.bool false, rest)
    | '\x22' :: rest => (readString rest).map fun r => (.string r.1, r.2)
    | '[' :: rest =>
      match skipBlanks rest with
      | ']' :: rest => some (.array [], rest)
      | rest => (readItems depth rest).map fun r => (.array r.1, r.2)
    | '\x7b' :: rest =>
      match skipBlanks rest with
      | '\x7d' :: rest => some (.object [], rest)
      | rest => (readMembers depth rest).map fun r => (.object r.1, r.2)
    | cs => (readNumber cs).map fun r => (.number r.1, r.2)

/-- Takes the items of an array that has some, and the bracket behind them. -/
def readItems : Nat → List Char → Option (List Json × List Char)
  | 0, _ => none
  | depth + 1, cs => do
    let (v, rest) ← readValue depth cs
    match skipBlanks rest with
    | ',' :: rest => (readItems depth rest).map fun r => (v :: r.1, r.2)
    | ']' :: rest => some ([v], rest)
    | _ => none

/-- Takes the members of an object that has some, and the brace behind them. -/
def readMembers : Nat → List Char → Option (List (Option String × Json) × List Char)
  | 0, _ => none
  | depth + 1, cs => do
    match skipBlanks cs with
    | '\x22' :: rest =>
      let (name, rest) ← readString rest
      match skipBlanks rest with
      | ':' :: rest =>
        let (v, rest) ← readValue depth rest
        match skipBlanks rest with
        | ',' :: rest => (readMembers depth rest).map fun r => ((name, v) :: r.1, r.2)
        | '\x7d' :: rest => some ([(name, v)], rest)
        | _ => none
      | _ => none
    | _ => none

end

/-- The value of a text, which holds nothing else but blanks. -/
def ofText? (cs : List Char) : Option Json := do
  let (v, rest) ← readValue (2 * cs.length + 2) cs
  if (skipBlanks rest).isEmpty then pure v else none

end AirUpdate.Json
