import FontCatalog.Pattern.Reader
import FontCatalog.Pattern.Size

/-!
# Path patterns

A pattern compiles if its text is well-formed, if nothing in it could match a part of a character,
and if it does not grow too large. A compiled pattern matches a text if it matches any stretch of
it.
-/

namespace FontCatalog

/-- A compiled pattern with its text. -/
structure Pattern where
  text : String
  program : Pattern.Program

namespace Pattern

open Unicode (Ranges)

/-- The flags in force at a place of a pattern. -/
structure Flags where
  caseInsensitive : Bool
  multiLine : Bool
  dotMatchesNewLine : Bool
  swapGreed : Bool
  unicode : Bool
  crlf : Bool

namespace Flags

def initial : Flags := ⟨false, false, false, false, true, false⟩

def set (fs : Flags) : FlagSetting → Flags
  | (.caseInsensitive, b) => { fs with caseInsensitive := b }
  | (.multiLine, b) => { fs with multiLine := b }
  | (.dotMatchesNewLine, b) => { fs with dotMatchesNewLine := b }
  | (.swapGreed, b) => { fs with swapGreed := b }
  | (.unicode, b) => { fs with unicode := b }
  | (.crlf, b) => { fs with crlf := b }
  | (.ignoreWhitespace, _) => fs

def setAll (fs : Flags) (settings : List FlagSetting) : Flags := settings.foldl set fs

-- A set with the other cases of its characters, if case does not count.
def fold (fs : Flags) (rs : Ranges) : Ranges :=
  if !fs.caseInsensitive then rs
  else if fs.unicode then Unicode.CaseFold.close rs
  else Unicode.CaseFold.closeAscii rs

-- A set or its complement. Without Unicode the complement would hold parts of characters.
def negate (fs : Flags) (negated : Bool) (rs : Ranges) : Option Ranges :=
  if !negated then some rs
  else if fs.unicode then some rs.complement
  else none

end Flags

/-! ## Sets -/

-- The characters of a named class.
def namedSet (fs : Flags) (c : NamedClass) (negated : Bool) : Option Ranges :=
  match c with
  | .digit => fs.negate negated (if fs.unicode then Named.digits else Named.asciiDigits)
  | .space => fs.negate negated (if fs.unicode then Named.spaces else Named.asciiSpaces)
  | .word => fs.negate negated (if fs.unicode then Named.words else Named.asciiWords)
  | .ascii low => fs.negate negated (fs.fold (low.map fun (a, b) => ⟨a.toNat, b.toNat⟩))
  | .property q => do
    if fs.unicode then fs.negate negated (fs.fold (← Named.query? q)) else none

-- The number of a literal in a set. Without Unicode only ASCII has one.
def literalCode (fs : Flags) (l : Literal) : Option Nat :=
  if fs.unicode || l.char.toNat < 0x80 then some l.char.toNat else none

mutual

-- The characters of a class in brackets.
def setOf (fs : Flags) : ClassSet → Option Ranges
  | .literal l => do
    let n ← literalCode fs l
    return [⟨n, n⟩]
  | .range low high => do return [⟨← literalCode fs low, ← literalCode fs high⟩]
  | .named c negated => do return Ranges.normalize (← namedSet fs c negated)
  | .bracketed negated body => do
    return Ranges.normalize (← fs.negate negated (fs.fold (← setOf fs body)))
  | .union items => do return Ranges.normalize (← setOfAll fs items)
  | .operation o left right => do
    let a := fs.fold (← setOf fs left)
    let b := fs.fold (← setOf fs right)
    match o with
    | .intersection => return Ranges.normalize (a.inter b)
    | .difference => return Ranges.normalize (a.diff b)
    | .symmetricDifference => return Ranges.normalize (a.symmDiff b)

-- The ranges of some sets, one after another.
def setOfAll (fs : Flags) : List ClassSet → Option Ranges
  | [] => some []
  | s :: rest => do return (← setOf fs s) ++ (← setOfAll fs rest)

end

/-! ## Programs -/

-- A literal. Without Unicode, two hexadecimal digits above ASCII name a part of a character.
def literalProgram (fs : Flags) (l : Literal) : Option Program :=
  let n := l.char.toNat
  if !fs.unicode && l.isByte && 0x80 ≤ n then none
  else some (.ofSet fs.unicode (fs.fold [⟨n, n⟩]))

def dotProgram (fs : Flags) : Option Program :=
  if !fs.unicode then none
  else if fs.dotMatchesNewLine then some (.ofSet true Ranges.all)
  else if fs.crlf then some (.ofSet true (Ranges.complement [⟨10, 10⟩, ⟨13, 13⟩]))
  else some (.ofSet true (Ranges.complement [⟨10, 10⟩]))

def lookOf (fs : Flags) : Assertion → Look
  | .lineStart => if fs.multiLine then .lineStart fs.crlf else .textStart
  | .lineEnd => if fs.multiLine then .lineEnd fs.crlf else .textEnd
  | .textStart => .textStart
  | .textEnd => .textEnd
  | .wordBoundary => .word fs.unicode .boundary
  | .notWordBoundary => .word fs.unicode .notBoundary
  | .wordStart => .word fs.unicode .start
  | .wordEnd => .word fs.unicode .finish
  | .wordStartHalf => .word fs.unicode .startHalf
  | .wordEndHalf => .word fs.unicode .finishHalf

mutual

-- The program of an expression, and the flags in force after it.
def programOf (fs : Flags) : Expr → Option (Program × Flags)
  | .empty => some (.empty, fs)
  | .flags settings => some (.empty, fs.setAll settings)
  | .literal l => do return (← literalProgram fs l, fs)
  | .dot => do return (← dotProgram fs, fs)
  | .assertion a => some (.look (lookOf fs a), fs)
  | .named c negated => do return (.ofSet fs.unicode (← namedSet fs c negated), fs)
  | .bracketed negated body => do
    return (.ofSet fs.unicode (← fs.negate negated (fs.fold (← setOf fs body))), fs)
  | .repetition e min max isLazy => do
    let (p, fs) ← programOf fs e
    return (.ofRepetition p min max (isLazy == fs.swapGreed), fs)
  | .group settings e => do
    let (p, _) ← programOf (fs.setAll settings) e
    return (p, fs)
  | .capture index e => do
    let (p, _) ← programOf fs e
    return (.capture index p, fs)
  | .alternation es => do
    let (ps, fs) ← programsOf fs es
    return (.ofAlternatives ps, fs)
  | .concat es => do
    let (ps, fs) ← programsOf fs es
    return (.ofParts ps, fs)

-- The programs of expressions from left to right.
def programsOf (fs : Flags) : List Expr → Option (List Program × Flags)
  | [] => some ([], fs)
  | e :: rest => do
    let (p, fs) ← programOf fs e
    let (ps, fs) ← programsOf fs rest
    return (p :: ps, fs)

end

-- The pattern that a text denotes.
def compile? (text : String) : Option Pattern := do
  let (program, _) ← programOf Flags.initial (← Expr.read text.toList)
  if program.fits then return ⟨text, program⟩ else none

-- Whether a pattern matches a stretch of a text.
def matchesIn (p : Pattern) (text : String) : Bool := p.program.matchesIn text.toList

end Pattern

end FontCatalog
