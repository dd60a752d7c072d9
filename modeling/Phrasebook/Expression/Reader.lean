import Phrasebook.Expression.Basic
import Phrasebook.Expression.Trace
import Phrasebook.Text.Nesting

namespace Phrasebook

/-- The outcome of looking for something at a place. -/
inductive Reply (α : Type) where
  /-- It is there, and this follows it. -/
  | found (value : α) (rest : List Char)
  /-- It does not start here. -/
  | absent
  /-- It starts here but does not go on as it has to. -/
  | broken (trace : Trace)
  deriving Repr

namespace Expr

def skipGaps (cs : List Char) : List Char := cs.dropWhile Text.isGap

def startsName (c : Char) : Bool := c.isAlpha || c = '_'

def continuesName (c : Char) : Bool := c.isAlphanum || c = '_'

/-- A name: a letter or an underscore, and then those and digits. -/
def name? : List Char → Option (String × List Char)
  | [] => none
  | c :: cs =>
    if startsName c then
      some (String.ofList (c :: cs.takeWhile continuesName), cs.dropWhile continuesName)
    else none

def digitsToNat (digits : List Char) : Nat := digits.foldl (fun n c => n * 10 + (c.toNat - 48)) 0

/-- A number: digits, and possibly a point with digits after it. Integers have to fit in 63 bits;
with a point the number is the nearest float, kept as an integer where it is one. -/
def number? (cs : List Char) : Option (Value × List Char) :=
  let whole := cs.takeWhile Char.isDigit
  if whole = [] then none
  else
    let plain :=
      if digitsToNat whole < Number.wordBound then
        some (Value.int (digitsToNat whole), cs.dropWhile Char.isDigit)
      else none
    match cs.dropWhile Char.isDigit with
    | '.' :: rest =>
      let fraction := rest.takeWhile Char.isDigit
      if fraction = [] then plain
      else
        let x := Double.ofDecimal false (digitsToNat (whole ++ fraction)) (-(fraction.length : Int))
        some (Value.ofDouble x, rest.dropWhile Char.isDigit)
    | _ => plain

def escape? (c : Char) : Option Char :=
  if c = 'n' then some '\n'
  else if c = 'r' then some '\r'
  else if c = 't' then some '\t'
  else if c = '\\' ∨ c = '\x27' ∨ c = '"' then some c
  else none

/-- The characters of a string after its opening mark, and what follows the closing one. -/
def stringBody? (mark : Char) : List Char → Option (List Char × List Char)
  | [] => none
  | c :: cs =>
    if c = mark then some ([], cs)
    else if c = '\\' then
      match cs with
      | [] => none
      | d :: ds =>
        match escape? d, stringBody? mark ds with
        | some e, some (body, rest) => some (e :: body, rest)
        | _, _ => none
    else (stringBody? mark cs).map fun (body, rest) => (c :: body, rest)

def operator? : List Char → Option (BinaryOp × List Char)
  | '*' :: cs => some (.mul, cs)
  | '/' :: cs => some (.div, cs)
  | '%' :: cs => some (.mod, cs)
  | '+' :: cs => some (.add, cs)
  | '-' :: cs => some (.sub, cs)
  | '<' :: '=' :: cs => some (.le, cs)
  | '<' :: cs => some (.lt, cs)
  | '>' :: '=' :: cs => some (.ge, cs)
  | '>' :: cs => some (.gt, cs)
  | '=' :: '=' :: cs => some (.eq, cs)
  | '!' :: '=' :: cs => some (.ne, cs)
  | '&' :: '&' :: cs => some (.and, cs)
  | '|' :: '|' :: cs => some (.or, cs)
  | _ => none

/-- The operator at the start, if it is one of the level. -/
def operatorAt? (level : Nat) (cs : List Char) : Option (BinaryOp × List Char) :=
  (operator? cs).filter fun found => found.1.level = level

/-- Expressions separated by commas, as many as there are; `steps` bounds their number. A comma
that no expression follows is left where it is. -/
def moreItems (expression : List Char → Reply Expr) : Nat → List Char → Reply (List Expr)
  | 0, cs => .found [] cs
  | steps + 1, cs =>
    match skipGaps cs with
    | ',' :: rest =>
      match expression (skipGaps rest) with
      | .found e rest =>
        match moreItems expression steps rest with
        | .found es rest => .found (e :: es) rest
        | other => other
      | .absent => .found [] cs
      | .broken t => .broken t
    | _ => .found [] cs

/-- Expressions separated by commas, if there are any. -/
def someItems (expression : List Char → Reply Expr) (cs : List Char) : Reply (List Expr) :=
  match expression (skipGaps cs) with
  | .found e rest =>
    match moreItems expression rest.length rest with
    | .found es rest => .found (e :: es) rest
    | other => other
  | .absent => .found [] cs
  | .broken t => .broken t

/-- Expressions separated by commas up to the closing character. -/
def items (expression : List Char → Reply Expr) (closing : Char) (cs : List Char) :
    Reply (List Expr) :=
  match someItems expression cs with
  | .found es rest =>
    match skipGaps rest with
    | c :: rest => if c = closing then .found es rest else .broken (.noChar closing (c :: rest))
    | [] => .broken (.noChar closing [])
  | other => other

/-- The literals that look like names. -/
def ofWord (word : String) : Expr :=
  if word = "true" then .literal (.bool true)
  else if word = "false" then .literal (.bool false)
  else if word = "null" then .literal .null
  else .identifier word

/-- A name: that of a call if an opening bracket follows, and else a word by itself. -/
def wordForm (expression : List Char → Reply Expr) (cs : List Char) : Reply Expr :=
  match name? cs with
  | none => .absent
  | some (word, rest) =>
    match skipGaps rest with
    | '(' :: inside =>
      match items expression ')' inside with
      | .found es rest => .found (.call word es) rest
      | .absent => .absent
      | .broken t => .broken t
    | _ => .found (ofWord word) rest

/-- A primary at its first character, by its forms; `expression` reads what stands in brackets. -/
def primaryForm (expression : List Char → Reply Expr) (cs : List Char) : Reply Expr :=
  match cs with
  | [] => .absent
  | c :: rest =>
    if c.isDigit then
      match number? cs with
      | some (v, rest) => .found (.literal v) rest
      | none => .absent
    else if Text.isQuote c then
      match stringBody? c rest with
      | some (body, rest) => .found (.literal (.text (String.ofList body))) rest
      | none => .absent
    else if c = '[' then
      match items expression ']' rest with
      | .found es rest => .found (.list es) rest
      | .absent => .absent
      | .broken t => .broken t
    else if c = '(' then
      match expression (skipGaps rest) with
      | .found e rest =>
        match skipGaps rest with
        | ')' :: rest => .found e rest
        | rest => .broken (.noChar ')' rest)
      | other => other
    else wordForm expression cs

/-- A primary; a failure inside it is reported as one within it. -/
def primary (expression : List Char → Reply Expr) (cs : List Char) : Reply Expr :=
  match primaryForm expression cs with
  | .broken t => .broken (t.within cs)
  | other => other

/-- The members and indexes after an expression; `steps` bounds their number. -/
def suffixes (expression : List Char → Reply Expr) : Nat → Expr → List Char → Reply Expr
  | 0, e, cs => .found e cs
  | steps + 1, e, cs =>
    match skipGaps cs with
    | '.' :: rest =>
      match name? (skipGaps rest) with
      | some (name, rest) => suffixes expression steps (.member e name) rest
      | none => .broken (.noName (skipGaps rest))
    | '[' :: rest =>
      match expression (skipGaps rest) with
      | .found key rest =>
        match skipGaps rest with
        | ']' :: rest => suffixes expression steps (.index e key) rest
        | rest => .broken (.noChar ']' rest)
      | .absent => .broken (.noOperand (skipGaps rest))
      | .broken t => .broken t
    | _ => .found e cs

def suffixed (expression : List Char → Reply Expr) (cs : List Char) : Reply Expr :=
  match primary expression cs with
  | .found e rest => suffixes expression rest.length e rest
  | other => other

/-- The signs in front of an operand, and the operand's first character. -/
def signs : List Char → List UnaryOp × List Char
  | [] => ([], [])
  | c :: cs =>
    if Text.isGap c then signs cs
    else if c = '-' then
      let (ops, rest) := signs cs
      (.negate :: ops, rest)
    else if c = '!' ∧ cs.head? ≠ some '=' then
      let (ops, rest) := signs cs
      (.not :: ops, rest)
    else ([], c :: cs)

def operand (expression : List Char → Reply Expr) (cs : List Char) : Reply Expr :=
  let (ops, start) := signs cs
  match suffixed expression start with
  | .found e rest => .found (ops.foldr Expr.unary e) rest
  | other => other

/-- Operators of one level with their right operands, gathered to the left; `steps` bounds their
number. -/
def chain (level : Nat) (next : List Char → Reply Expr) :
    Nat → Expr → List Char → Reply Expr
  | 0, left, cs => .found left cs
  | steps + 1, left, cs =>
    match operatorAt? level (skipGaps cs) with
    | none => .found left cs
    | some (op, rest) =>
      match next (skipGaps rest) with
      | .found right rest => chain level next steps (.binary op left right) rest
      | .absent => .broken (.noOperand (skipGaps rest))
      | .broken t => .broken t

/-- An expression whose operators outside brackets are of this level or a tighter one. -/
def atLevel (expression : List Char → Reply Expr) : Nat → List Char → Reply Expr
  | 0, cs => operand expression cs
  | level + 1, cs =>
    match atLevel expression level cs with
    | .found left rest => chain (level + 1) (atLevel expression level) rest.length left rest
    | other => other

/-- An expression with at most `depth` brackets around each other. -/
def expression : Nat → List Char → Reply Expr
  | 0, _ => .absent
  | depth + 1, cs => atLevel (expression depth) BinaryOp.levels cs

/-- An expression that is all of the text, by the grammar

    expression = operand (operator operand)*        by six levels, each binding to the left
    operand    = ('!' | '-')* primary ('.' name | '[' expression ']')*
    primary    = number | string | '[' expressions ']' | '(' expression ')'
               | name '(' expressions ')' | name

with gaps of blanks and line ends between all words and around them. Where an operand does not
start, another form may be tried; what follows an operator, an opening bracket or a point has to be
there. Every bracket takes a character, so the length of the text bounds their depth. -/
def read (cs : List Char) : Except Trace Expr :=
  let start := skipGaps cs
  match expression (start.length + 1) start with
  | .found e rest =>
    match skipGaps rest with
    | [] => .ok e
    | rest => .error (.noEnding rest)
  | .absent => .error (.noOperand start)
  | .broken t => .error t

end Expr

end Phrasebook
