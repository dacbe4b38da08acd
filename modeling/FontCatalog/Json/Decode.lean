import FontCatalog.Json.Scan
import FontCatalog.Json.Value
import FontCatalog.Text.Quoted

/-!
# Reading JSON of a known shape

Readers for strings, numbers, lists and objects that know what they expect. They go through the
text once, so of two faults in one text the one that comes first is reported. A value of another
kind is named in the message together with what was expected.
-/

namespace FontCatalog.Json

/-! ## Values of the wrong kind -/

/-- What stands where something else was expected. -/
inductive Found where
  | null
  | bool (b : Bool)
  | numeral (n : Numeral)
  | string (s : List Char)
  | list
  | members
  deriving Repr

-- A 64-bit number in messages.
def floatText : Number.Binary → List Char
  | .finite s m q => finiteText .double doubleStyle s m q
  | .infinite s => if s then "-inf".toList else "inf".toList
  | .nan _ => "NaN".toList

def Numeral.describe : Numeral → String
  | .unsigned n => "integer `" ++ String.ofList (Number.decimal n) ++ "`"
  | .negative n => "integer `-" ++ String.ofList (Number.decimal n) ++ "`"
  | .float x => "floating point `" ++ String.ofList (floatText x) ++ "`"

def Found.describe : Found → String
  | .null => "null"
  | .bool b => "boolean `" ++ (if b then "true" else "false") ++ "`"
  | .numeral n => n.describe
  | .string s => "string " ++ String.ofList (Text.quoted s)
  | .list => "sequence"
  | .members => "map"

def invalidType (found : Found) (expected : String) : ReadError :=
  .wrongShape ("invalid type: " ++ found.describe ++ ", expected " ++ expected)

def invalidValue (found : Found) (expected : String) : ReadError :=
  .wrongShape ("invalid value: " ++ found.describe ++ ", expected " ++ expected)

/-- The failure for a text where another kind of value was expected. White space has been
skipped. Numbers, words and strings are read to their end first, and may fail on their own. -/
def unexpected (expected : String) (s : List Char) : ReadError :=
  let result : Except ReadError Found :=
    match s with
    | [] => .error .unexpectedEnd
    | 'n' :: t => (word "ull".toList t).map fun _ => .null
    | 't' :: t => (word "rue".toList t).map fun _ => .bool true
    | 'f' :: t => (word "alse".toList t).map fun _ => .bool false
    | '-' :: t => (numeral true t).map fun (n, _) => .numeral n
    | '"' :: t => (stringBody t).map fun (cs, _) => .string cs
    | '[' :: _ => .ok .list
    | '\x7b' :: _ => .ok .members
    | c :: t =>
      if isDigit c then (numeral false (c :: t)).map fun (n, _) => .numeral n
      else .error .syntaxError
  match result with
  | .error e => e
  | .ok found => invalidType found expected

/-! ## Scalars -/

-- A string, described as `expected` in messages.
def readString (expected : String) : Reader String := fun s =>
  match skipBlank s with
  | '"' :: t => (stringBody t).map fun (cs, rest) => (String.ofList cs, rest)
  | t => .error (unexpected expected t)

def readBool : Reader Bool := fun s =>
  match skipBlank s with
  | 't' :: t => (word "rue".toList t).map (true, ·)
  | 'f' :: t => (word "alse".toList t).map (false, ·)
  | t => .error (unexpected "a boolean" t)

-- A number of any kind, described as `expected` in messages.
def readNumeral (expected : String) : Reader Numeral := fun s =>
  match skipBlank s with
  | '-' :: t => numeral true t
  | c :: t => if isDigit c then numeral false (c :: t) else .error (unexpected expected (c :: t))
  | [] => .error .unexpectedEnd

-- An integer from zero to `max`.
def readNat (expected : String) (max : Nat) : Reader Nat := fun s => do
  let (n, rest) ← readNumeral expected s
  match n with
  | .unsigned k =>
    if k ≤ max then return (k, rest) else throw (invalidValue (.numeral n) expected)
  | .negative _ => throw (invalidValue (.numeral n) expected)
  | .float _ => throw (invalidType (.numeral n) expected)

-- The 32-bit number nearest to a number.
def Numeral.toSingle : Numeral → Number.Single
  | .unsigned n => .ofBinary (.ofFraction .single false n 1)
  | .negative n => .ofBinary (.ofFraction .single true n 1)
  | .float x => .ofBinary (x.round .single)

def readSingle : Reader Number.Single := fun s => do
  let (n, rest) ← readNumeral "f32" s
  return (n.toSingle, rest)

-- `null` for nothing, and anything else by `read`.
def readOptional {α : Type} (read : Reader α) : Reader (Option α) := fun s =>
  match skipBlank s with
  | 'n' :: t => (word "ull".toList t).map (none, ·)
  | t => (read t).map fun (a, rest) => (some a, rest)

/-! ## Lists and objects -/

-- The text at the next item of a list, or nothing before its closing bracket.
def nextItem (first : Bool) (s : List Char) : Except ReadError (Option (List Char)) :=
  match skipBlank s with
  | [] => .error .unexpectedEnd
  | ']' :: _ => .ok none
  | c :: t =>
    if first then .ok (some (c :: t))
    else if c = ',' then
      match skipBlank t with
      | [] => .error .unexpectedEnd
      | ']' :: _ => .error .syntaxError
      | u => .ok (some u)
    else .error .syntaxError

-- The text after a list whose items have all been read.
def closeList (s : List Char) : Except ReadError (List Char) :=
  match skipBlank s with
  | [] => .error .unexpectedEnd
  | ']' :: t => .ok t
  | _ => .error .syntaxError

-- The items of a list, up to its closing bracket. Every item takes a character.
def listItems {α : Type} (read : Reader α) : Nat → Bool → Reader (List α)
  | 0, _, _ => .error .unexpectedEnd
  | fuel + 1, first, s => do
    match ← nextItem first s with
    | none => return ([], ← closeList s)
    | some t =>
      let (a, t) ← read t
      let (as, t) ← listItems read fuel false t
      return (a :: as, t)

def readList {α : Type} (read : Reader α) : Reader (List α) := fun s =>
  match skipBlank s with
  | '[' :: t => listItems read (t.length + 1) true t
  | t => .error (unexpected "a sequence" t)

-- The next item of a list that stands for a structure, of which `count` items have been read.
def readItem {α : Type} (structure_ : String) (size count : Nat) (read : Reader α) : Reader α :=
  fun s => do
    match ← nextItem (count == 0) s with
    | some t => read t
    | none =>
      throw (.wrongShape ("invalid length " ++ toString count ++ ", expected struct " ++ structure_
        ++ " with " ++ toString size ++ " elements"))

-- The key at the front of an object's next member, or nothing before its closing bracket.
def nextKey (first : Bool) (s : List Char) : Except ReadError (Option (String × List Char)) :=
  let key (t : List Char) : Except ReadError (Option (String × List Char)) := do
    match t with
    | '"' :: u =>
      let (cs, rest) ← stringBody u
      return some (String.ofList cs, rest)
    | _ => throw .syntaxError
  match skipBlank s with
  | [] => .error .unexpectedEnd
  | '\x7d' :: _ => .ok none
  | c :: t =>
    if first then key (c :: t)
    else if c = ',' then
      match skipBlank t with
      | [] => .error .unexpectedEnd
      | u => key u
    else .error .syntaxError

-- The text after the colon of a member.
def colon (s : List Char) : Except ReadError (List Char) :=
  match skipBlank s with
  | [] => .error .unexpectedEnd
  | ':' :: t => .ok t
  | _ => .error .syntaxError

-- The text after an object whose members have all been read.
def closeObject (s : List Char) : Except ReadError (List Char) :=
  match skipBlank s with
  | [] => .error .unexpectedEnd
  | '\x7d' :: t => .ok t
  | _ => .error .syntaxError

-- What to do with the member of a key, given what the members so far have given.
abbrev Member (σ : Type) := σ → String → Reader σ

-- A member that may stand in an object once. `current` is what an earlier one gave.
def once {α σ : Type} (key : String) (current : Option α) (read : Reader α) (store : α → σ) :
    Reader σ := fun s => do
  if current.isSome then throw (.wrongShape ("duplicate field `" ++ key ++ "`"))
  else
    let (a, rest) ← read (← colon s)
    return (store a, rest)

-- A member that nobody reads.
def ignored {σ : Type} (state : σ) : Reader σ := fun s => do
  return (state, ← skipValue (← colon s))

-- The members of an object, up to its closing bracket.
def objectMembers {σ : Type} (member : Member σ) : Nat → Bool → σ → Reader σ
  | 0, _, _, _ => .error .unexpectedEnd
  | fuel + 1, first, state, s => do
    match ← nextKey first s with
    | none => return (state, s)
    | some (key, t) =>
      let (state, t) ← member state key t
      objectMembers member fuel false state t

-- What a field gave, which must have been there.
def required {α : Type} (key : String) : Option α → Except ReadError α
  | some a => .ok a
  | none => .error (.wrongShape ("missing field `" ++ key ++ "`"))

/-- A structure, written as an object of its fields or as a list of them in order. `expected` names
it in messages. -/
def readStruct {α σ : Type} (expected : String) (start : σ) (member : Member σ)
    (finish : σ → Except ReadError α) (items : Reader α) : Reader α := fun s =>
  match skipBlank s with
  | '\x7b' :: t => do
    let (state, t) ← objectMembers member (t.length + 1) true start t
    let a ← finish state
    return (a, ← closeObject t)
  | '[' :: t => do
    let (a, t) ← items t
    return (a, ← closeList t)
  | t => .error (unexpected ("struct " ++ expected) t)

-- A whole text by a reader. Nothing but white space may follow.
def readAll {α : Type} (read : Reader α) (s : String) : Except ReadError α := do
  let (a, rest) ← read s.toList
  match skipBlank rest with
  | [] => return a
  | _ => throw .syntaxError

end FontCatalog.Json
