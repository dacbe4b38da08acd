import FontCatalog.Number.Single

/-!
# Scanning JSON text

The pieces of JSON text from left to right: white space, words, strings and numbers. A reader takes
the text at its position and gives a value with the rest of the text. Three kinds of failure are
told apart: text that is no JSON, text that ends too early, and JSON of the wrong shape.
-/

namespace FontCatalog.Json

/-- Why a text could not be read. -/
inductive ReadError where
  | syntaxError
  | unexpectedEnd
  | wrongShape (message : String)
  deriving DecidableEq, Repr

-- A value read from the front of a text, with the rest.
abbrev Reader (α : Type) := List Char → Except ReadError (α × List Char)

-- The four white space characters of JSON.
def isBlank (c : Char) : Bool :=
  c == ' ' || c == '\n' || c == '\t' || c == '\r'

def skipBlank (s : List Char) : List Char :=
  s.dropWhile isBlank

-- The rest of a word whose first letter has been seen.
def word : List Char → List Char → Except ReadError (List Char)
  | [], s => .ok s
  | _ :: _, [] => .error .unexpectedEnd
  | w :: ws, c :: cs => if c = w then word ws cs else .error .syntaxError

/-! ## Strings -/

/-- The number written by the four hexadecimal digits at the front. Too few bytes for four digits
are an early end. -/
def hexFour : List Char → Except ReadError Nat
  | a :: b :: c :: d :: _ =>
    match [a, b, c, d].mapM Number.digitValue? with
    | some ds => .ok (ds.foldl (fun n d => 16 * n + d) 0)
    | none => .error .syntaxError
  | s => if 4 ≤ (String.ofList s).utf8ByteSize then .error .syntaxError else .error .unexpectedEnd

def isHighSurrogate (n : Nat) : Bool := 0xD800 ≤ n && n ≤ 0xDBFF
def isLowSurrogate (n : Nat) : Bool := 0xDC00 ≤ n && n ≤ 0xDFFF

-- The character after `\u`, and how many characters it takes. Surrogates must come in pairs.
def unicodeEscape (s : List Char) : Except ReadError (Char × Nat) := do
  let n ← hexFour s
  if isLowSurrogate n then throw .syntaxError
  else if !isHighSurrogate n then return (Char.ofNat n, 4)
  else
    match s.drop 4 with
    | [] => throw .unexpectedEnd
    | ['\\'] => throw .unexpectedEnd
    | '\\' :: 'u' :: t =>
      let low ← hexFour t
      if isLowSurrogate low then
        return (Char.ofNat ((n - 0xD800) * 0x400 + (low - 0xDC00) + 0x10000), 10)
      else throw .syntaxError
    | _ => throw .syntaxError

-- The character after a backslash, and how many characters it takes.
def escape : List Char → Except ReadError (Char × Nat)
  | [] => .error .unexpectedEnd
  | '"' :: _ => .ok ('"', 1)
  | '\\' :: _ => .ok ('\\', 1)
  | '/' :: _ => .ok ('/', 1)
  | 'b' :: _ => .ok ('\x08', 1)
  | 'f' :: _ => .ok ('\x0c', 1)
  | 'n' :: _ => .ok ('\n', 1)
  | 'r' :: _ => .ok ('\r', 1)
  | 't' :: _ => .ok ('\t', 1)
  | 'u' :: s => (unicodeEscape s).map fun (c, n) => (c, n + 1)
  | _ => .error .syntaxError

-- The characters of a string after its opening quote.
def stringBody : Reader (List Char)
  | [] => .error .unexpectedEnd
  | c :: s =>
    if c = '"' then .ok ([], s)
    else if c = '\\' then do
      let (d, n) ← escape s
      let (ds, rest) ← stringBody (s.drop n)
      return (d :: ds, rest)
    else if c < ' ' then .error .syntaxError
    else do
      let (ds, rest) ← stringBody s
      return (c :: ds, rest)
  termination_by s => s.length
  decreasing_by all_goals simp only [List.length_cons, List.length_drop]; omega

/-- How many characters an escape takes in a string that nobody reads. Surrogates may stand
alone there. -/
def escapeLength : List Char → Except ReadError Nat
  | [] => .error .unexpectedEnd
  | 'u' :: s => (hexFour s).map fun _ => 5
  | c :: _ => if "\"\\/bfnrt".toList.contains c then .ok 1 else .error .syntaxError

-- The text after a string that nobody reads, from after its opening quote.
def skipString : List Char → Except ReadError (List Char)
  | [] => .error .unexpectedEnd
  | c :: s =>
    if c = '"' then .ok s
    else if c = '\\' then do
      let n ← escapeLength s
      skipString (s.drop n)
    else if c < ' ' then .error .syntaxError
    else skipString s
  termination_by s => s.length
  decreasing_by all_goals simp only [List.length_cons, List.length_drop]; omega

/-! ## Numbers -/

/-- A number as JSON text gives it: an integer of 64 bits if it is written as one and fits, and a
64-bit floating-point number otherwise. -/
inductive Numeral where
  | unsigned (n : Nat)
  /-- `-n`, for `n` positive. -/
  | negative (n : Nat)
  | float (x : Number.Binary)
  deriving DecidableEq, Repr

def maxSignificand : Nat := 0xFFFFFFFFFFFFFFFF

/-- Digits at the front, taken into a significand for as long as it fits into 64 bits: the
significand, the number of digits taken, and the rest. -/
def takeDigits : Nat → Nat → List Char → Nat × Nat × List Char
  | sig, taken, [] => (sig, taken, [])
  | sig, taken, c :: cs =>
    match Number.digitIn? 10 c with
    | some d =>
      if sig * 10 + d ≤ maxSignificand then takeDigits (sig * 10 + d) (taken + 1) cs
      else (sig, taken, c :: cs)
    | none => (sig, taken, c :: cs)

def isDigit (c : Char) : Bool := '0' ≤ c && c ≤ '9'

-- Ten to a power, as the nearest 64-bit number.
def powerOfTen (k : Nat) : Number.Binary :=
  Number.Binary.ofDecimal .double false 1 k

/-- `sig * 10 ^ exp`, scaled one rounded step at a time: the significand is rounded first, then one
product or quotient by a power of ten up to `10 ^ 308`. Four steps reach zero from any
significand. A value above all 64-bit numbers is refused. -/
def scaleDecimal : Nat → Number.Binary → Int → Except ReadError Number.Binary
  | 0, x, _ => .ok x
  | steps + 1, x, exp =>
    if exp.natAbs ≤ 308 then
      if 0 ≤ exp then
        match Number.Binary.mul .double x (powerOfTen exp.natAbs) with
        | .infinite _ => .error .syntaxError
        | y => .ok y
      else .ok (Number.Binary.div .double x (powerOfTen exp.natAbs))
    else if x.isZero then .ok x
    else if 0 ≤ exp then .error .syntaxError
    else scaleDecimal steps (Number.Binary.div .double x (powerOfTen 308)) (exp + 308)

-- The number `± sig * 10 ^ exp`.
def floatOfDecimal (negative : Bool) (sig : Nat) (exp : Int) : Except ReadError Number.Binary := do
  let x ← scaleDecimal 5 (Number.Binary.ofFraction .double false sig 1) exp
  return if negative then x.negate else x

/-- Digits of an exponent, while its value fits into 32 bits with a sign: the value, or none if it
does not fit, and the rest. -/
def exponentDigits : Nat → List Char → Option Nat × List Char
  | n, [] => (some n, [])
  | n, c :: cs =>
    match Number.digitIn? 10 c with
    | some d => if n * 10 + d < 0x80000000 then exponentDigits (n * 10 + d) cs else (none, c :: cs)
    | none => (some n, c :: cs)

-- A number after the `e` of its exponent part.
def afterExponentMark (negative : Bool) (sig : Nat) (start : Int) : Reader Number.Binary :=
  fun s => do
    let (down, s) := match s with
      | '+' :: t => (false, t)
      | '-' :: t => (true, t)
      | t => (false, t)
    match s with
    | [] => throw .unexpectedEnd
    | c :: _ =>
      if !isDigit c then throw .syntaxError
      else
        match exponentDigits 0 s with
        | (some n, rest) =>
          let x ← floatOfDecimal negative sig (if down then start - n else start + n)
          return (x, rest)
        | (none, rest) =>
          -- The exponent is beyond all numbers: the value is zero or too large.
          if sig ≠ 0 ∧ !down then throw .syntaxError
          else return (.finite negative 0 Number.Format.double.minExp, rest.dropWhile isDigit)

-- A number after its digits: an exponent part or nothing.
def afterDigits (negative : Bool) (sig : Nat) (exp : Int) : Reader Number.Binary
  | [] => (floatOfDecimal negative sig exp).map (·, [])
  | c :: s =>
    if c = 'e' ∨ c = 'E' then afterExponentMark negative sig exp s
    else (floatOfDecimal negative sig exp).map (·, c :: s)

/-- A number after its decimal point. Digits that no longer fit into the significand are
dropped. -/
def afterPoint (negative : Bool) (sig : Nat) (exp : Int) : Reader Number.Binary :=
  fun s =>
    let (sig, taken, rest) := takeDigits sig 0 s
    match rest with
    | [] => if taken = 0 then .error .unexpectedEnd else afterDigits negative sig (exp - taken) []
    | c :: _ =>
      if isDigit c then afterDigits negative sig (exp - taken) (rest.dropWhile isDigit)
      else if taken = 0 then .error .syntaxError
      else afterDigits negative sig (exp - taken) rest

-- A number after its integer digits, of which `dropped` did not fit into the significand.
def afterInteger (negative : Bool) (sig : Nat) (dropped : Nat) : Reader Number.Binary
  | '.' :: s => afterPoint negative sig dropped s
  | s => afterDigits negative sig dropped s

/-- The integer that digits without point and exponent stand for. `-0` and integers beyond 64 bits
are floating-point numbers. -/
def integerNumeral (negative : Bool) (sig : Nat) : Numeral :=
  if !negative then .unsigned sig
  else if sig = 0 ∨ 0x8000000000000000 < sig then
    .float (Number.Binary.ofFraction .double true sig 1)
  else .negative sig

-- A number after its sign. A zero is followed by no further digit.
def numeral (negative : Bool) : Reader Numeral
  | [] => .error .unexpectedEnd
  | c :: s =>
    if !isDigit c ∨ (c = '0' ∧ s.head?.any isDigit) then .error .syntaxError
    else
      let (sig, _, rest) := takeDigits 0 0 (c :: s)
      match rest with
      | [] => .ok (integerNumeral negative sig, [])
      | d :: _ =>
        -- A digit stands here only if the significand has no room for it.
        if isDigit d ∨ d = '.' ∨ d = 'e' ∨ d = 'E' then
          let dropped := (rest.takeWhile isDigit).length
          (afterInteger negative sig dropped (rest.dropWhile isDigit)).map
            fun (x, rest) => (.float x, rest)
        else .ok (integerNumeral negative sig, rest)

/-! ## Values that nobody reads -/

-- The text after one or more digits.
def skipDigits : List Char → Except ReadError (List Char)
  | c :: s => if isDigit c then .ok (s.dropWhile isDigit) else .error .syntaxError
  | [] => .error .syntaxError

-- The text after an exponent part, or the text itself where none begins.
def skipExponent : List Char → Except ReadError (List Char)
  | c :: s =>
    if c = 'e' ∨ c = 'E' then
      skipDigits (match s with
        | '+' :: t => t
        | '-' :: t => t
        | t => t)
    else .ok (c :: s)
  | [] => .ok []

-- The text after a number without its sign.
def skipNumber : List Char → Except ReadError (List Char)
  | c :: s =>
    if !isDigit c ∨ (c = '0' ∧ s.head?.any isDigit) then .error .syntaxError
    else
      match s.dropWhile isDigit with
      | '.' :: t => do skipExponent (← skipDigits t)
      | t => skipExponent t
  | [] => .error .syntaxError

/-- What an open bracket encloses. -/
inductive Bracket where
  | list
  | members
  deriving DecidableEq, Repr

def Bracket.closing : Bracket → Char
  | .list => ']'
  | .members => '\x7d'

/-- What comes next while skipping: a value, or something after one inside the innermost bracket,
where a comma is in order only after an item. -/
inductive SkipState where
  | value
  | inside (comma : Bool)
  deriving DecidableEq, Repr

-- The text after a key and its colon, from before the key.
def skipKey (s : List Char) : Except ReadError (List Char) :=
  match skipBlank s with
  | [] => .error .unexpectedEnd
  | '"' :: t => do
    match skipBlank (← skipString t) with
    | [] => throw .unexpectedEnd
    | ':' :: u => return u
    | _ => throw .syntaxError
  | _ => .error .syntaxError

/-- The text after a value, given the brackets that are open, innermost first. Every step takes a
character, so as many steps as there are characters are enough, with one more to finish. -/
def skipSteps : Nat → SkipState → List Bracket → List Char → Except ReadError (List Char)
  | 0, _, _, _ => .error .unexpectedEnd
  | fuel + 1, .value, brackets, s =>
    match skipBlank s with
    | [] => .error .unexpectedEnd
    | 'n' :: t => do skipSteps fuel (.inside true) brackets (← word "ull".toList t)
    | 't' :: t => do skipSteps fuel (.inside true) brackets (← word "rue".toList t)
    | 'f' :: t => do skipSteps fuel (.inside true) brackets (← word "alse".toList t)
    | '-' :: t => do skipSteps fuel (.inside true) brackets (← skipNumber t)
    | '"' :: t => do skipSteps fuel (.inside true) brackets (← skipString t)
    | '[' :: t => skipSteps fuel (.inside false) (.list :: brackets) t
    | '\x7b' :: t => skipSteps fuel (.inside false) (.members :: brackets) t
    | c :: t =>
      if isDigit c then do skipSteps fuel (.inside true) brackets (← skipNumber (c :: t))
      else .error .syntaxError
  | _ + 1, .inside _, [], s => .ok s
  | fuel + 1, .inside comma, b :: brackets, s =>
    match skipBlank s with
    | [] => .error .unexpectedEnd
    | c :: t =>
      if c = b.closing then skipSteps fuel (.inside true) brackets t
      else if comma ∧ c ≠ ',' then .error .syntaxError
      else
        let t := if comma then t else c :: t
        match b with
        | .list => skipSteps fuel .value (b :: brackets) t
        | .members => do skipSteps fuel .value (b :: brackets) (← skipKey t)

-- The text after a value that nobody reads.
def skipValue (s : List Char) : Except ReadError (List Char) :=
  skipSteps (2 * s.length + 2) .value [] s

end FontCatalog.Json
