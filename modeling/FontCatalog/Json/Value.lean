import FontCatalog.Number.Single

/-!
# JSON values and their two written forms

Values are written compactly, without white space, or indented by two blanks a level. Some values
have no JSON form, such as a path that is not UTF-8. Writing goes from left to right and stops
there, so the text of such a value is a draft: what stands before the part that cannot be written.
-/

namespace FontCatalog

/-- A JSON value. -/
inductive Json where
  | null
  | bool (b : Bool)
  /-- A number by its text. -/
  | number (text : List Char)
  | string (s : String)
  | array (items : List Json)
  | object (members : List (String × Json))
  /-- A value without a JSON form. -/
  | unwritable
  deriving Repr, Inhabited

namespace Json

/-- Text written so far, and whether anything stopped it. -/
structure Draft where
  text : List Char
  finished : Bool
  deriving DecidableEq, Repr

namespace Draft

def done (text : List Char) : Draft := ⟨text, true⟩

-- One draft after another. A draft that was stopped is followed by nothing.
def append (a b : Draft) : Draft :=
  if a.finished then ⟨a.text ++ b.text, b.finished⟩ else a

instance : Append Draft := ⟨append⟩

@[simp] theorem done_append_done (s t : List Char) : done s ++ done t = done (s ++ t) := rfl

theorem append_assoc (a b c : Draft) : a ++ b ++ c = a ++ (b ++ c) := by
  change Draft.append (Draft.append a b) c = Draft.append a (Draft.append b c)
  rcases a with ⟨s, _ | _⟩ <;> rcases b with ⟨t, _ | _⟩ <;> simp [Draft.append]

end Draft

-- How one character stands in a string: quotes, backslashes and control characters are escaped.
def escapeChar (c : Char) : List Char :=
  if c = '"' then ['\\', '"']
  else if c = '\\' then ['\\', '\\']
  else if c = '\x08' then ['\\', 'b']
  else if c = '\x0c' then ['\\', 'f']
  else if c = '\n' then ['\\', 'n']
  else if c = '\r' then ['\\', 'r']
  else if c = '\t' then ['\\', 't']
  else if c < ' ' then '\\' :: 'u' :: Number.fixedDigits Number.lowerDigit 16 4 c.toNat
  else [c]

-- A string in quotes.
def quote (s : String) : List Char :=
  '"' :: (s.toList.flatMap escapeChar ++ ['"'])

mutual

-- The compact form.
def compact : Json → Draft
  | null => .done "null".toList
  | bool b => .done (if b then "true".toList else "false".toList)
  | number text => .done text
  | string s => .done (quote s)
  | array items => .done ['['] ++ compactItems true items ++ .done [']']
  | object members => .done ['\x7b'] ++ compactMembers true members ++ .done ['\x7d']
  | unwritable => ⟨[], false⟩

def compactItems (first : Bool) : List Json → Draft
  | [] => .done []
  | v :: vs => .done (if first then [] else [',']) ++ v.compact ++ compactItems false vs

def compactMembers (first : Bool) : List (String × Json) → Draft
  | [] => .done []
  | (key, v) :: ms =>
    .done ((if first then [] else [',']) ++ quote key ++ [':']) ++ v.compact ++
      compactMembers false ms

end

-- A line end and the blanks of an indentation level.
def newLine (level : Nat) : List Char :=
  '\n' :: List.replicate (2 * level) ' '

mutual

-- The indented form at a level.
def indented (level : Nat) : Json → Draft
  | array (v :: vs) =>
    .done ['['] ++ indentedItems (level + 1) true (v :: vs) ++ .done (newLine level ++ [']'])
  | object (m :: ms) =>
    .done ['\x7b'] ++ indentedMembers (level + 1) true (m :: ms) ++
      .done (newLine level ++ ['\x7d'])
  | null => .done "null".toList
  | bool b => .done (if b then "true".toList else "false".toList)
  | number text => .done text
  | string s => .done (quote s)
  | array [] => .done ['[', ']']
  | object [] => .done ['\x7b', '\x7d']
  | unwritable => ⟨[], false⟩

def indentedItems (level : Nat) (first : Bool) : List Json → Draft
  | [] => .done []
  | v :: vs =>
    .done ((if first then [] else [',']) ++ newLine level) ++ v.indented level ++
      indentedItems level false vs

def indentedMembers (level : Nat) (first : Bool) : List (String × Json) → Draft
  | [] => .done []
  | (key, v) :: ms =>
    .done ((if first then [] else [',']) ++ newLine level ++ quote key ++ [':', ' ']) ++
      v.indented level ++ indentedMembers level false ms

end

/-- Where positional notation ends: numbers from `10 ^ lowest` to below `10 ^ (highest + 1)` are
written in it. -/
structure NumberStyle where
  lowest : Int
  highest : Int

def singleStyle : NumberStyle := ⟨-6, 12⟩
def doubleStyle : NumberStyle := ⟨-5, 15⟩

/-- The digits `d * 10 ^ e` as a JSON number that always shows itself to be no integer: a point or
an exponent with its sign. -/
def digitsText (style : NumberStyle) (d : Nat) (e : Int) : List Char :=
  let ds := Number.decimal d
  let top : Int := e + ds.length - 1
  if style.lowest ≤ top ∧ top ≤ style.highest then
    let body := Number.Single.positional d e
    if 0 ≤ e then body ++ ['.', '0'] else body
  else
    let mantissa :=
      match ds with
      | [] => []
      | [c] => [c]
      | c :: cs => c :: '.' :: cs
    mantissa ++ 'e' :: (if 0 ≤ top then '+' else '-') :: Number.decimal top.natAbs

/-- A finite number of a binary format as a JSON number. Ties between decimals go to the even
digit. -/
def finiteText (fmt : Number.Format) (style : NumberStyle) (negative : Bool) (m : Nat) (q : Int) :
    List Char :=
  let body :=
    if m = 0 then ['0', '.', '0']
    else
      let (d, e) := Number.Binary.shortest fmt .toEven m q
      digitsText style d e
  if negative then '-' :: body else body

/-- A 32-bit number. Numbers that are not finite have no JSON form of their own and become
`null`. -/
def ofSingle (x : Number.Single) : Json :=
  match x.toBinary with
  | .finite s m q => number (finiteText .single singleStyle s m q)
  | _ => null

-- A natural number.
def ofNat (n : Nat) : Json :=
  number (Number.decimal n)

end Json

end FontCatalog
