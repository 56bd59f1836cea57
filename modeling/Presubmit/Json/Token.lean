import Presubmit.Json.Value

/-! JSON tokens. The reader takes one character at a time: a number or a word ends at the first
character that cannot belong to it, and everything else ends with its own last character. -/
namespace Presubmit.Json

/-- A number beyond the range of the format has no magnitude, and a text with half of a character no
value. -/
inductive Token where
  | openArr
  | closeArr
  | openObj
  | closeObj
  | comma
  | colon
  | null
  | bool (b : Bool)
  | int (i : Int)
  | real (negative : Bool) (magnitude : Option Decimal.Binary64)
  | str (s : Option String)
deriving DecidableEq

def isBlank (c : Char) : Bool :=
  c == ' ' || c == '\n' || c == '\t' || c == '\r'

def isNumeric (c : Char) : Bool :=
  c.isDigit || c == '-' || c == '+' || c == '.' || c == 'e' || c == 'E'

def digitValue (c : Char) : Nat :=
  c.toNat - '0'.toNat

/-- Gathers digits while the value fits 64 bits and returns what is left over. -/
def gather (value : Nat) : List Char → Nat × List Char
  | [] => (value, [])
  | c :: cs =>
    let next := value * 10 + digitValue c
    if next < Decimal.pow2 64 then gather next cs else (value, c :: cs)

def natValue (digits : List Char) : Nat :=
  digits.foldl (fun n c => n * 10 + digitValue c) 0

/-- An exponent: its letter, a sign or none, and at least one digit. -/
def exponent? : List Char → Option Int
  | [] => some 0
  | c :: cs =>
    if c = 'e' ∨ c = 'E' then
      let (negative, digits) :=
        match cs with
        | '-' :: ds => (true, ds)
        | '+' :: ds => (false, ds)
        | ds => (false, ds)
      if digits.isEmpty || !digits.all Char.isDigit then
        none
      else
        some (if negative then -(natValue digits : Int) else natValue digits)
    else
      none

/-- Digits that exceed 64 bits are dropped: they only shift the power of ten before the point and do
nothing after it. -/
def realToken (negative : Bool) (whole fraction : List Char) (e : Int) : Token :=
  let (head, dropped) := gather 0 whole
  let (significand, rest) := gather head fraction
  let shift : Int := dropped.length - (fraction.length - rest.length : Nat)
  .real negative (Decimal.Binary64.ofScientific? significand (shift + e))

/-- Whole numbers from the least signed to the greatest unsigned one of 64 bits stay exact, except
a zero with a sign. -/
def wholeToken (negative : Bool) (digits : List Char) : Token :=
  let n := natValue digits
  if negative then
    if n ≠ 0 ∧ n ≤ Decimal.pow2 63 then .int (-n) else realToken true digits [] 0
  else
    if n < Decimal.pow2 64 then .int n else realToken false digits [] 0

def unsignedToken? (negative : Bool) (cs : List Char) : Option Token :=
  let whole := cs.takeWhile Char.isDigit
  let rest := cs.dropWhile Char.isDigit
  if whole.isEmpty || (whole.head? == some '0' && whole.length != 1) then
    none
  else
    match rest with
    | [] => some (wholeToken negative whole)
    | '.' :: more =>
      let fraction := more.takeWhile Char.isDigit
      if fraction.isEmpty then
        none
      else
        (exponent? (more.dropWhile Char.isDigit)).map (realToken negative whole fraction)
    | more => (exponent? more).map (realToken negative whole [])

def numberToken? : List Char → Option Token
  | '-' :: cs => unsignedToken? true cs
  | cs => unsignedToken? false cs

def wordToken? (cs : List Char) : Option Token :=
  if cs = ['n', 'u', 'l', 'l'] then some .null
  else if cs = ['t', 'r', 'u', 'e'] then some (.bool true)
  else if cs = ['f', 'a', 'l', 's', 'e'] then some (.bool false)
  else none

def hexValue? (c : Char) : Option Nat :=
  if '0' ≤ c ∧ c ≤ '9' then some (c.toNat - 48)
  else if 'a' ≤ c ∧ c ≤ 'f' then some (c.toNat - 87)
  else if 'A' ≤ c ∧ c ≤ 'F' then some (c.toNat - 55)
  else none

def escaped? : Char → Option Char
  | '"' => some '"'
  | '\\' => some '\\'
  | '/' => some '/'
  | 'b' => some '\x08'
  | 'f' => some '\x0c'
  | 'n' => some '\n'
  | 'r' => some '\r'
  | 't' => some '\t'
  | _ => none

def isFirstHalf (n : Nat) : Bool :=
  0xD800 ≤ n && n ≤ 0xDBFF

def isSecondHalf (n : Nat) : Bool :=
  0xDC00 ≤ n && n ≤ 0xDFFF

/-- Numbered characters, where one beyond 16 bits comes in two halves. -/
def joinHalves : List Nat → Option (List Char)
  | [] => some []
  | n :: ns =>
    if isFirstHalf n then
      match ns with
      | m :: ms =>
        if isSecondHalf m then
          (joinHalves ms).map (Char.ofNat ((n - 0xD800) * 0x400 + (m - 0xDC00) + 0x10000) :: ·)
        else
          none
      | [] => none
    else if isSecondHalf n then
      none
    else
      (joinHalves ns).map (Char.ofNat n :: ·)

/-- What has been read of the current token, last first. -/
inductive Reading where
  | between
  | text (done : List Nat)
  | escape (done : List Nat)
  | hex (done : List Nat) (value count : Nat)
  | number (done : List Char)
  | word (done : List Char)
deriving DecidableEq

structure Scanner where
  tokens : List Token
  reading : Reading

namespace Scanner

def emit (s : Scanner) (t : Token) : Scanner :=
  ⟨t :: s.tokens, .between⟩

def start (s : Scanner) (c : Char) : Option Scanner :=
  if isBlank c then some ⟨s.tokens, .between⟩
  else if c.isDigit || c == '-' then some ⟨s.tokens, .number [c]⟩
  else if c.isLower then some ⟨s.tokens, .word [c]⟩
  else
    match c with
    | '[' => some (s.emit .openArr)
    | ']' => some (s.emit .closeArr)
    | '\x7b' => some (s.emit .openObj)
    | '\x7d' => some (s.emit .closeObj)
    | ',' => some (s.emit .comma)
    | ':' => some (s.emit .colon)
    | '"' => some ⟨s.tokens, .text []⟩
    | _ => none

def step (s : Scanner) (c : Char) : Option Scanner :=
  match s.reading with
  | .between => s.start c
  | .text done =>
    if c = '"' then some (s.emit (.str ((joinHalves done.reverse).map String.ofList)))
    else if c = '\\' then some ⟨s.tokens, .escape done⟩
    else if c.toNat < 0x20 then none
    else some ⟨s.tokens, .text (c.toNat :: done)⟩
  | .escape done =>
    if c = 'u' then some ⟨s.tokens, .hex done 0 0⟩
    else (escaped? c).map fun d => ⟨s.tokens, .text (d.toNat :: done)⟩
  | .hex done value count =>
    (hexValue? c).map fun d =>
      let n := value * 16 + d
      ⟨s.tokens, if count = 3 then .text (n :: done) else .hex done n (count + 1)⟩
  | .number done =>
    if isNumeric c then
      some ⟨s.tokens, .number (c :: done)⟩
    else do
      let t ← numberToken? done.reverse
      (s.emit t).start c
  | .word done =>
    if c.isLower then
      some ⟨s.tokens, .word (c :: done)⟩
    else do
      let t ← wordToken? done.reverse
      (s.emit t).start c

def finish (s : Scanner) : Option (List Token) :=
  match s.reading with
  | .between => some s.tokens.reverse
  | .number done => (numberToken? done.reverse).map fun t => (t :: s.tokens).reverse
  | .word done => (wordToken? done.reverse).map fun t => (t :: s.tokens).reverse
  | _ => none

end Scanner

def tokenize (cs : List Char) : Option (List Token) :=
  (cs.foldlM Scanner.step ⟨[], .between⟩).bind Scanner.finish

end Presubmit.Json
