import TemplateVariants.Shell.Syntax

/-!
# Arithmetic

Expressions over whole numbers of 64 bits, which wrap. A numeral may be decimal, octal after a zero,
or hexadecimal after `0x`. A variable counts as what its text reads as, and as zero if it is empty.
-/

namespace TemplateVariants
namespace Shell

/-! ## Numbers -/

/-- The number that remains of a sum or a product in 64 bits. -/
def wrap (n : Int) : Int :=
  Int.bmod n UInt64.size

def leastNumber : Int := Int64.minValue.toInt

def greatestNumber : Int := Int64.maxValue.toInt

/-- The greatest number without sign. -/
def greatestBits : Int := UInt64.size - 1

/-- The value of a digit in a base up to 16. -/
def digitValue? (base : Nat) (c : Char) : Option Nat :=
  let value :=
    if c.isDigit then c.toNat - '0'.toNat
    else if 'a' ≤ c ∧ c ≤ 'f' then c.toNat - 'a'.toNat + 10
    else if 'A' ≤ c ∧ c ≤ 'F' then c.toNat - 'A'.toNat + 10
    else 16
  if value < base then some value else none

/-- The number of the digits that a text starts with, and what follows them. -/
def digitsFrom (base : Nat) (text : List Char) : Nat × List Char :=
  let digits := text.takeWhile fun c => (digitValue? base c).isSome
  (digits.foldl (fun n c => n * base + (digitValue? base c).getD 0) 0, text.drop digits.length)

/-- The numeral that a text starts with, in a base that its own start tells, and what follows it;
none if there is no digit. -/
def numeralFrom? (text : List Char) : Option (Nat × List Char) :=
  match text with
  | '0' :: x :: c :: rest =>
    if (x = 'x' ∨ x = 'X') ∧ (digitValue? 16 c).isSome then some (digitsFrom 16 (c :: rest))
    else some (digitsFrom 8 text)
  | '0' :: _ => some (digitsFrom 8 text)
  | c :: _ => if c.isDigit then some (digitsFrom 10 text) else none
  | [] => none

def isSpace (c : Char) : Bool :=
  c == ' ' || (decide ('\t' ≤ c) && decide (c ≤ '\r'))

/-- The signed number that a text starts with, after spaces, and what follows it. -/
def signedFrom? (text : List Char) : Option (Int × List Char) :=
  match text.dropWhile isSpace with
  | '-' :: rest => (numeralFrom? rest).map fun (n, rest) => (-(n : Int), rest)
  | '+' :: rest => (numeralFrom? rest).map fun (n, rest) => ((n : Int), rest)
  | rest => (numeralFrom? rest).map fun (n, rest) => ((n : Int), rest)

/-- The number of a text that holds one and spaces around it. -/
def readNumber? (text : List Char) : Option Int :=
  match signedFrom? text with
  | some (n, rest) =>
    if rest.all isSpace ∧ leastNumber ≤ n ∧ n ≤ greatestNumber then some n else none
  | none => none

/-! ## Expressions -/

inductive BinaryOp where
  | times | over | modulo | plus | minus | shiftLeft | shiftRight
  | less | atMost | greater | atLeast | equal | unequal
  | bitAnd | bitXor | bitOr
deriving DecidableEq, Repr

inductive UnaryOp where
  | minus | logicalNot | bitNot
deriving DecidableEq, Repr

/-- An expression; an assignment may go through an operator. -/
inductive Expr where
  | number (n : Int)
  | name (x : String)
  | unary (op : UnaryOp) (e : Expr)
  | binary (op : BinaryOp) (a b : Expr)
  | both (a b : Expr)
  | either (a b : Expr)
  | choice (c a b : Expr)
  | assign (x : String) (op? : Option BinaryOp) (e : Expr)
deriving Repr

inductive ArithmeticFault where
  | expecting (what : String)
  | divisionByZero
  | notANumber (text : List Char)
deriving DecidableEq, Repr

/-! ### Reading -/

inductive Token where
  | number (n : Int)
  | name (x : String)
  | sign (text : String)
deriving DecidableEq, Repr

/-- The signs of the grammar, the longer before the shorter. -/
def signs : List String :=
  ["<<=", ">>=", "<<", ">>", "<=", ">=", "==", "!=", "&&", "||", "*=", "/=", "%=", "+=", "-=", "&=",
    "^=", "|=", "*", "/", "%", "+", "-", "<", ">", "&", "^", "|", "!", "~", "?", ":", "(", ")", "="]

/-- The tokens of a text; the number bounds them. -/
def tokensFrom : Nat → List Char → Except ArithmeticFault (List Token)
  | 0, _ => .ok []
  | fuel + 1, text =>
    match text.dropWhile isSpace with
    | [] => .ok []
    | c :: rest =>
      if isNameStart c then do
        let name := (c :: rest).takeWhile isNameChar
        return .name (String.ofList name) :: (← tokensFrom fuel ((c :: rest).drop name.length))
      else
        match numeralFrom? (c :: rest) with
        | some (n, rest) => do
          return .number (min (n : Int) greatestNumber) :: (← tokensFrom fuel rest)
        | none =>
          match signs.find? fun sign => sign.toList.isPrefixOf (c :: rest) with
          | some sign => do
            return .sign sign :: (← tokensFrom fuel ((c :: rest).drop sign.length))
          | none => .error (.expecting "EOF")

/-- The operator of a sign and how tightly it binds. -/
def binaryOp? : String → Option (BinaryOp × Nat)
  | "*" => some (.times, 8)
  | "/" => some (.over, 8)
  | "%" => some (.modulo, 8)
  | "+" => some (.plus, 7)
  | "-" => some (.minus, 7)
  | "<<" => some (.shiftLeft, 6)
  | ">>" => some (.shiftRight, 6)
  | "<" => some (.less, 5)
  | "<=" => some (.atMost, 5)
  | ">" => some (.greater, 5)
  | ">=" => some (.atLeast, 5)
  | "==" => some (.equal, 4)
  | "!=" => some (.unequal, 4)
  | "&" => some (.bitAnd, 3)
  | "^" => some (.bitXor, 2)
  | "|" => some (.bitOr, 1)
  | _ => none

/-- The operator that an assigning sign goes through. -/
def assigning? : String → Option (Option BinaryOp)
  | "=" => some none
  | "*=" => some (some .times)
  | "/=" => some (some .over)
  | "%=" => some (some .modulo)
  | "+=" => some (some .plus)
  | "-=" => some (some .minus)
  | "<<=" => some (some .shiftLeft)
  | ">>=" => some (some .shiftRight)
  | "&=" => some (some .bitAnd)
  | "^=" => some (some .bitXor)
  | "|=" => some (some .bitOr)
  | _ => none

abbrev Parsed := Except ArithmeticFault (Expr × List Token)

mutual

def parseAssignment : Nat → List Token → Parsed
  | 0, _ => .error (.expecting "primary")
  | fuel + 1, tokens =>
    match tokens with
    | .name x :: .sign sign :: rest =>
      match assigning? sign with
      | some op? => do
        let (e, rest) ← parseAssignment fuel rest
        return (.assign x op? e, rest)
      | none => parseChoice fuel tokens
    | _ => parseChoice fuel tokens

def parseChoice : Nat → List Token → Parsed
  | 0, _ => .error (.expecting "primary")
  | fuel + 1, tokens => do
    let (c, rest) ← parseEither fuel tokens
    match rest with
    | .sign "?" :: rest =>
      let (a, rest) ← parseAssignment fuel rest
      match rest with
      | .sign ":" :: rest =>
        let (b, rest) ← parseChoice fuel rest
        return (.choice c a b, rest)
      | _ => throw (.expecting "':'")
    | _ => return (c, rest)

def parseEither : Nat → List Token → Parsed
  | 0, _ => .error (.expecting "primary")
  | fuel + 1, tokens => do
    let (a, rest) ← parseBoth fuel tokens
    match rest with
    | .sign "||" :: rest =>
      let (b, rest) ← parseEither fuel rest
      return (.either a b, rest)
    | _ => return (a, rest)

def parseBoth : Nat → List Token → Parsed
  | 0, _ => .error (.expecting "primary")
  | fuel + 1, tokens => do
    let (a, rest) ← parseBinary fuel 1 tokens
    match rest with
    | .sign "&&" :: rest =>
      let (b, rest) ← parseBoth fuel rest
      return (.both a b, rest)
    | _ => return (a, rest)

/-- Operands joined by operators that bind at least as tightly as `level`. -/
def parseBinary : Nat → Nat → List Token → Parsed
  | 0, _, _ => .error (.expecting "primary")
  | fuel + 1, level, tokens => do
    let (a, rest) ← parsePrimary fuel tokens
    parseBinaryRest fuel level a rest

def parseBinaryRest : Nat → Nat → Expr → List Token → Parsed
  | 0, _, _, _ => .error (.expecting "primary")
  | fuel + 1, level, a, tokens =>
    match tokens with
    | .sign sign :: rest =>
      match binaryOp? sign with
      | some (op, tightness) =>
        if level ≤ tightness then do
          let (b, rest) ← parseBinary fuel (tightness + 1) rest
          parseBinaryRest fuel level (.binary op a b) rest
        else .ok (a, tokens)
      | none => .ok (a, tokens)
    | _ => .ok (a, tokens)

def parsePrimary : Nat → List Token → Parsed
  | 0, _ => .error (.expecting "primary")
  | fuel + 1, tokens =>
    match tokens with
    | .number n :: rest => .ok (.number n, rest)
    | .name x :: rest => .ok (.name x, rest)
    | .sign "(" :: rest => do
      let (e, rest) ← parseAssignment fuel rest
      match rest with
      | .sign ")" :: rest => return (e, rest)
      | _ => throw (.expecting "')'")
    | .sign "+" :: rest => parsePrimary fuel rest
    | .sign "-" :: rest => do
      let (e, rest) ← parsePrimary fuel rest
      return (.unary .minus e, rest)
    | .sign "!" :: rest => do
      let (e, rest) ← parsePrimary fuel rest
      return (.unary .logicalNot e, rest)
    | .sign "~" :: rest => do
      let (e, rest) ← parsePrimary fuel rest
      return (.unary .bitNot e, rest)
    | _ => .error (.expecting "primary")

end

/-- The expression that a text spells. -/
def Expr.read (text : List Char) : Except ArithmeticFault Expr := do
  let tokens ← tokensFrom text.length text
  let (e, rest) ← parseAssignment (32 * (tokens.length + 1)) tokens
  if rest.isEmpty then return e else throw (.expecting "EOF")

/-! ### Values -/

def ofBool (b : Bool) : Int :=
  if b then 1 else 0

/-- The bits of a number as a number without sign. -/
def bits (n : Int) : Nat :=
  (n % UInt64.size).toNat

def BinaryOp.apply (op : BinaryOp) (a b : Int) : Except ArithmeticFault Int :=
  match op with
  | .times => .ok (wrap (a * b))
  | .over => if b = 0 then .error .divisionByZero else .ok (wrap (Int.tdiv a b))
  | .modulo => if b = 0 then .error .divisionByZero else .ok (wrap (Int.tmod a b))
  | .plus => .ok (wrap (a + b))
  | .minus => .ok (wrap (a - b))
  | .shiftLeft => .ok (wrap (a * (1 <<< (bits b % 64) : Nat)))
  | .shiftRight => .ok (Int.fdiv a (1 <<< (bits b % 64) : Nat))
  | .less => .ok (ofBool (a < b))
  | .atMost => .ok (ofBool (a ≤ b))
  | .greater => .ok (ofBool (b < a))
  | .atLeast => .ok (ofBool (b ≤ a))
  | .equal => .ok (ofBool (a = b))
  | .unequal => .ok (ofBool (a ≠ b))
  | .bitAnd => .ok (wrap (bits a &&& bits b : Nat))
  | .bitXor => .ok (wrap (bits a ^^^ bits b : Nat))
  | .bitOr => .ok (wrap (bits a ||| bits b : Nat))

def UnaryOp.apply (op : UnaryOp) (a : Int) : Int :=
  match op with
  | .minus => wrap (-a)
  | .logicalNot => ofBool (a = 0)
  | .bitNot => -a - 1

/-- What an expression is evaluated against: the texts of variables, where the latest assignment
comes first. -/
structure Bindings where
  text? : String → Option (List Char)
  assigned : List (String × Int) := []

abbrev Evaluation := EStateM ArithmeticFault Bindings

def valueOf (x : String) : Evaluation Int := do
  let s ← get
  match s.assigned.lookup x with
  | some n => return n
  | none =>
    match s.text? x with
    | none => return 0
    | some text =>
      if text.isEmpty then return 0
      else
        match readNumber? text with
        | some n => return n
        | none => throw (.notANumber text)

def lift (result : Except ArithmeticFault Int) : Evaluation Int :=
  match result with
  | .ok n => pure n
  | .error fault => throw fault

def Expr.evaluate : Expr → Evaluation Int
  | .number n => return n
  | .name x => valueOf x
  | .unary op e => return op.apply (← e.evaluate)
  | .binary op a b => do
    let m ← a.evaluate
    let n ← b.evaluate
    lift (op.apply m n)
  | .both a b => do
    if (← a.evaluate) = 0 then return 0
    return ofBool ((← b.evaluate) ≠ 0)
  | .either a b => do
    if (← a.evaluate) ≠ 0 then return 1
    return ofBool ((← b.evaluate) ≠ 0)
  | .choice c a b => do
    if (← c.evaluate) ≠ 0 then a.evaluate else b.evaluate
  | .assign x op? e => do
    let n ← e.evaluate
    let result ←
      match op? with
      | none => pure n
      | some op => lift (op.apply (← valueOf x) n)
    modify fun s => { s with assigned := (x, result) :: s.assigned }
    return result

end Shell
end TemplateVariants
