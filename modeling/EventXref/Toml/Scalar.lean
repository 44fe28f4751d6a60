import EventXref.Text.Bytes
import EventXref.Toml.Value

namespace EventXref.Toml

def isControl (c : Char) : Bool := (c.toNat < 0x20 && c != '\t') || c.toNat == 0x7f

def isSpace (c : Char) : Bool := c == ' ' || c == '\t'

def hexValue (c : Char) : Nat :=
  if c.isDigit then c.toNat - '0'.toNat else c.toLower.toNat - 'a'.toNat + 10

def isHex (c : Char) : Bool := c.isDigit || ('a' ≤ c.toLower && c.toLower ≤ 'f')

def number (base : Nat) (digits : List Char) : Nat :=
  digits.foldl (fun n c => n * base + hexValue c) 0

def numbered? (n : Nat) (t : List Char) : Option (Char × List Char) :=
  let digits := t.take n
  let value := number 16 digits
  if digits.length = n ∧ digits.all isHex ∧ value.isValidChar then
    some (Char.ofNat value, t.drop n)
  else none

def escape? : List Char → Option (Char × List Char)
  | [] => none
  | c :: t =>
    match c with
    | 'b' => some ('\x08', t)
    | 't' => some ('\t', t)
    | 'n' => some ('\n', t)
    | 'f' => some ('\x0c', t)
    | 'r' => some ('\r', t)
    | 'e' => some ('\x1b', t)
    | '"' => some ('"', t)
    | '\\' => some ('\\', t)
    | 'x' => numbered? 2 t
    | 'u' => numbered? 4 t
    | 'U' => numbered? 8 t
    | _ => none

def lineBreak? : List Char → Option (List Char)
  | '\n' :: t => some t
  | '\r' :: '\n' :: t => some t
  | _ => none

def skipBlankLines : List Char → List Char
  | '\r' :: '\n' :: t => skipBlankLines t
  | c :: t => if c = '\n' ∨ isSpace c then skipBlankLines t else c :: t
  | [] => []

def joinedLine? (t : List Char) : Option (List Char) :=
  (lineBreak? (t.dropWhile isSpace)).map skipBlankLines

structure Quoting where
  quote : Char
  escapes : Bool
  multiLine : Bool

/-- A string up to its closing quotes, and what stands behind them; the number bounds the steps. Up
to two quotes may stand right before the three that close a string of several lines. -/
def stringBody (q : Quoting) : Nat → List Char → Option (List Char × List Char)
  | 0, _ => none
  | _, [] => none
  | fuel + 1, c :: t =>
    let text := c :: t
    let put := fun (front : List Char) (rest : List Char) =>
      (stringBody q fuel rest).map fun (s, rest) => (front ++ s, rest)
    if c = q.quote then
      let run := (text.takeWhile (· == q.quote)).length
      if !q.multiLine then some ([], t)
      else if run < 3 then put (text.take run) (text.drop run)
      else some (text.take (min run 5 - 3), text.drop (min run 5))
    else if c = '\\' ∧ q.escapes then
      match if q.multiLine then joinedLine? t else none with
      | some rest => put [] rest
      | none => (escape? t).bind fun (e, rest) => put [e] rest
    else if isControl c then
      match if q.multiLine then lineBreak? text else none with
      | some rest => put (text.take (text.length - rest.length)) rest
      | none => none
    else put [c] t

def string? : List Char → Option (String × List Char)
  | [] => none
  | c :: t =>
    let read := fun multiLine (body : List Char) =>
      (stringBody ⟨c, c == '"', multiLine⟩ (body.length + 1) body).map fun (s, rest) =>
        (String.ofList s, rest)
    match t with
    | a :: b :: rest =>
      if a = c ∧ b = c then read true ((lineBreak? rest).getD rest) else read false t
    | _ => read false t

def isDigits (isDigit : Char → Bool) (t : List Char) : Bool :=
  (Text.splitOn '_' t).all fun part => !part.isEmpty && part.all isDigit

def dropUnderscores (t : List Char) : List Char := t.filter (· ≠ '_')

def sign : List Char → Bool × List Char
  | '-' :: t => (true, t)
  | '+' :: t => (false, t)
  | t => (false, t)

def isDecimal (t : List Char) : Bool :=
  isDigits Char.isDigit t && (t.length == 1 || t.head? != some '0')

def inBounds (n : Int) : Bool := -Int.pow 2 127 ≤ n && n < Int.pow 2 128

def integer? (t : List Char) : Option Int :=
  let value := fun base digits => Int.ofNat (number base (dropUnderscores digits))
  let based := fun base isDigit digits =>
    if isDigits isDigit digits then some (value base digits) else none
  let read := match t with
    | '0' :: 'x' :: t => based 16 isHex t
    | '0' :: 'o' :: t => based 8 (fun c => '0' ≤ c && c ≤ '7') t
    | '0' :: 'b' :: t => based 2 (fun c => c == '0' || c == '1') t
    | t =>
      let (negative, digits) := sign t
      let n := value 10 digits
      if isDecimal digits then some (if negative then -n else n) else none
  read.filter inBounds

def floatBound : Nat := Nat.pow 2 1024 - Nat.pow 2 970

/-- Whether digits with a power of ten stay below the bound. Decimals far from it are settled by
their length alone. -/
def isFinite (digits : List Char) (exponent : Int) : Bool :=
  let digits := digits.dropWhile (· == '0')
  let size := digits.length + exponent
  if digits.isEmpty ∨ size < 300 then true
  else if 320 < size then false
  else if 0 ≤ exponent then number 10 digits * Nat.pow 10 exponent.toNat < floatBound
  else number 10 digits < floatBound * Nat.pow 10 (-exponent).toNat

def isFloat (t : List Char) : Bool :=
  let t := (sign t).2
  if t = "inf".toList ∨ t = "nan".toList then true
  else
    let isExponent := fun (c : Char) => c == 'e' || c == 'E'
    let mantissa := t.takeWhile (!isExponent ·)
    let exponent := (t.dropWhile (!isExponent ·)).tail
    let hasExponent := mantissa.length < t.length
    let (negative, power) := sign exponent
    let scale := Int.ofNat (number 10 (dropUnderscores power))
    let scale := if negative then -scale else scale
    let finite := fun (whole fraction : List Char) =>
      let fraction := dropUnderscores fraction
      isFinite (dropUnderscores whole ++ fraction) (scale - fraction.length)
    let exponentFits := !hasExponent || isDigits Char.isDigit power
    match Text.cut? ['.'] mantissa with
    | some (whole, fraction) =>
      isDecimal whole && isDigits Char.isDigit fraction && exponentFits && finite whole fraction
    | none => isDecimal mantissa && hasExponent && exponentFits && finite mantissa []

def field? (n least most : Nat) (t : List Char) : Option (Nat × List Char) :=
  let digits := t.take n
  let value := number 10 digits
  if digits.length = n ∧ digits.all Char.isDigit ∧ least ≤ value ∧ value ≤ most then
    some (value, t.drop n)
  else none

def daysOf (year month : Nat) : Nat :=
  let isLeap := year % 4 == 0 && (year % 100 != 0 || year % 400 == 0)
  if month = 2 then (if isLeap then 29 else 28)
  else if [4, 6, 9, 11].contains month then 30 else 31

def afterDate? (t : List Char) : Option (List Char) := do
  let (year, t) ← field? 4 0 9999 t
  let (month, t) ← field? 2 1 12 (← Text.after? ['-'] t)
  let (_, t) ← field? 2 1 (daysOf year month) (← Text.after? ['-'] t)
  return t

def afterTime? (t : List Char) : Option (List Char) := do
  let (_, t) ← field? 2 0 23 t
  let (_, t) ← field? 2 0 59 (← Text.after? [':'] t)
  match t with
  | ':' :: t =>
    let (_, t) ← field? 2 0 60 t
    match t with
    | '.' :: t =>
      if t.head?.any Char.isDigit then some (t.dropWhile Char.isDigit) else none
    | t => some t
  | t => some t

def isOffset : List Char → Bool
  | [] => true
  | [c] => c == 'Z' || c == 'z'
  | c :: t =>
    (c == '+' || c == '-') && ((do
      let (_, t) ← field? 2 0 23 t
      let (_, t) ← field? 2 0 59 (← Text.after? [':'] t)
      return t.isEmpty) == some true)

def isMoment (t : List Char) : Bool :=
  match afterDate? t with
  | some [] => true
  | some (c :: t) => ['T', 't', ' '].contains c && (afterTime? t).any isOffset
  | none => afterTime? t == some []

def isPlain (c : Char) : Bool := c.isAlphanum || ['_', '+', '-', '.', ':'].contains c

def plainWord (t : List Char) : List Char × List Char :=
  let word := t.takeWhile isPlain
  let rest := t.dropWhile isPlain
  match afterDate? word, rest with
  | some [], ' ' :: c :: more =>
    if c.isDigit then
      (word ++ ' ' :: (c :: more).takeWhile isPlain, (c :: more).dropWhile isPlain)
    else (word, rest)
  | _, _ => (word, rest)

def plain? (word : List Char) : Option Value :=
  if word = "true".toList then some (.boolean true)
  else if word = "false".toList then some (.boolean false)
  else match integer? word with
    | some n => some (.integer n)
    | none =>
      if isFloat word then some (.float (String.ofList word))
      else if isMoment word then some (.moment (String.ofList word))
      else none

end EventXref.Toml
