import Phrasebook.Result
import Phrasebook.Template
import Phrasebook.Token.Scan

namespace Phrasebook

/-- The next token. An exhausted list reads as the end of the input. -/
def Token.peek : List Token → Token
  | [] => .endAt .start
  | t :: _ => t

def Token.nextKind (ts : List Token) : TokenKind := (Token.peek ts).kind

namespace Template

/-- The error that the next token is none of those wanted. -/
def refuse (ts : List Token) (wanted : List TokenKind) : ParseError :=
  ⟨.unexpected (Token.peek ts).kind (Token.peek ts).text wanted, (Token.peek ts).location⟩

def expect (kind : TokenKind) : List Token → Except ParseError (Token × List Token)
  | [] => .error (refuse [] [kind])
  | t :: ts => if t.kind = kind then .ok (t, ts) else .error (refuse (t :: ts) [kind])

theorem length_of_expect {kind : TokenKind} {ts rest : List Token} {t : Token}
    (h : expect kind ts = .ok (t, rest)) : rest.length < ts.length := by
  cases ts with
  | nil => cases h
  | cons u us =>
    rw [expect] at h
    split at h
    · cases h
      simp
    · cases h

/-- A line ends here: at a newline or at the end of the input. -/
def atLineEnd (ts : List Token) : Bool :=
  Token.nextKind ts = .newline || Token.nextKind ts = .endOfInput

/-- What follows the newline; the end of the input stays. -/
def afterNewline : List Token → List Token
  | [] => []
  | t :: ts => if t.kind = .newline then ts else t :: ts

theorem length_afterNewline (ts : List Token) : (afterNewline ts).length ≤ ts.length := by
  cases ts with
  | nil => simp [afterNewline]
  | cons t ts =>
    rw [afterNewline]
    split <;> simp

def endLine (ts : List Token) : Except ParseError (List Token) :=
  if atLineEnd ts then .ok (afterNewline ts) else .error (refuse ts [.newline])

theorem length_of_endLine {ts rest : List Token} (h : endLine ts = .ok rest) :
    rest.length ≤ ts.length := by
  rw [endLine] at h
  split at h
  · cases h
    exact length_afterNewline ts
  · cases h

/-- The rest of a dotted name after its first identifiers, which are joined in `name`. -/
def nameTail (name : String) : List Token → Except ParseError (String × List Token)
  | [] => .ok (name, [])
  | [t] => if t.kind = .dot then .error (refuse [] [.identifier]) else .ok (name, [t])
  | t :: u :: ts =>
    if t.kind = .dot then
      if u.kind = .identifier then nameTail (name ++ "." ++ u.text) ts
      else .error (refuse (u :: ts) [.identifier])
    else .ok (name, t :: u :: ts)

theorem length_of_nameTail {first name : String} {ts rest : List Token}
    (h : nameTail first ts = .ok (name, rest)) : rest.length ≤ ts.length := by
  fun_induction nameTail first ts generalizing name rest with
  | case4 first t u ts _ _ ih =>
    have := ih h
    simp only [List.length_cons]
    omega
  | _ => cases h <;> simp

def readName (ts : List Token) : Except ParseError (String × List Token) := do
  let (first, rest) ← expect .identifier ts
  nameTail first.text rest

theorem length_of_readName {ts rest : List Token} {name : String}
    (h : readName ts = .ok (name, rest)) : rest.length ≤ ts.length := by
  obtain ⟨⟨t, ts₁⟩, h₁, h⟩ := bind_eq_ok.1 h
  have := length_of_expect h₁
  have := length_of_nameTail h
  omega

/-- The parameters after the first, up to the closing parenthesis. -/
def parameterTail : List Token → Except ParseError (List String × List Token)
  | [] => .error (refuse [] [.closeParen])
  | [t] =>
    if t.kind = .comma then .error (refuse [] [.identifier])
    else if t.kind = .closeParen then .ok ([], [])
    else .error (refuse [t] [.closeParen])
  | t :: u :: ts =>
    if t.kind = .comma then
      if u.kind = .identifier then do
        let (more, rest) ← parameterTail ts
        return (u.text :: more, rest)
      else .error (refuse (u :: ts) [.identifier])
    else if t.kind = .closeParen then .ok ([], u :: ts)
    else .error (refuse (t :: u :: ts) [.closeParen])

theorem length_of_parameterTail {ts rest : List Token} {names : List String}
    (h : parameterTail ts = .ok (names, rest)) : rest.length ≤ ts.length := by
  fun_induction parameterTail ts generalizing names rest with
  | case5 t u ts _ _ ih =>
    obtain ⟨⟨more, rest'⟩, h₁, h⟩ := bind_eq_ok.1 h
    cases h
    have := ih h₁
    simp only [List.length_cons]
    omega
  | _ => cases h <;> simp

/-- The parameters in parentheses, if there is an opening one. -/
def readParameters (ts : List Token) : Except ParseError (List String × List Token) :=
  if Token.nextKind ts = .openParen then do
    let (_, ts) ← expect .openParen ts
    let (first, ts) ← expect .identifier ts
    let (more, ts) ← parameterTail ts
    return (first.text :: more, ts)
  else .ok ([], ts)

theorem length_of_readParameters {ts rest : List Token} {names : List String}
    (h : readParameters ts = .ok (names, rest)) : rest.length ≤ ts.length := by
  rw [readParameters] at h
  split at h
  · obtain ⟨⟨_, ts₁⟩, h₁, h⟩ := bind_eq_ok.1 h
    obtain ⟨⟨_, ts₂⟩, h₂, h⟩ := bind_eq_ok.1 h
    obtain ⟨⟨_, ts₃⟩, h₃, h⟩ := bind_eq_ok.1 h
    cases h
    have := length_of_expect h₁
    have := length_of_expect h₂
    have := length_of_parameterTail h₃
    omega
  · cases h
    simp

def startsClause (keyword : TokenKind) : List Token → Bool
  | t :: u :: _ => t.kind = .dash && u.kind = keyword
  | _ => false

/-- A dash stands here, and no keyword of a clause after it. -/
def startsLine (ts : List Token) : Bool :=
  Token.nextKind ts = .dash && !startsClause .caseKeyword ts && !startsClause .defaultKeyword ts

/-- The segments of a line's tokens. Neighbouring plain tokens join to one text; `pending` is the
text gathered so far. -/
def segments (pending : String) : List Token → List Segment
  | [] => if pending = "" then [] else [.text pending]
  | t :: ts =>
    let flush (s : Segment) : List Segment :=
      if pending = "" then s :: segments "" ts else .text pending :: s :: segments "" ts
    match t.kind with
    | .expression => flush (.expression t.text)
    | .reference => flush (.reference t.text)
    | .block => flush (.block t.text)
    | _ => segments (pending ++ t.text) ts

/-- What may follow inside a line. -/
def lineWants : List TokenKind := [.text, .expression, .reference, .block, .newline]

/-- The tokens of a line's content, from the front of the list. -/
def content (ts : List Token) : List Token := ts.takeWhile fun t => t.kind.isContent

def afterContent (ts : List Token) : List Token := ts.dropWhile fun t => t.kind.isContent

theorem length_afterContent (ts : List Token) : (afterContent ts).length ≤ ts.length :=
  (List.dropWhile_suffix _).length_le

/-- As many lines as start here. -/
def readLines : List Token → Except ParseError (List Line × List Token)
  | [] => .ok ([], [])
  | dash :: ts =>
    if startsLine (dash :: ts) then
      if atLineEnd (afterContent ts) then
        match readLines (afterNewline (afterContent ts)) with
        | .ok (more, rest) => .ok (⟨segments "" (content ts), dash.location⟩ :: more, rest)
        | .error e => .error e
      else .error (refuse (afterContent ts) lineWants)
    else .ok ([], dash :: ts)
termination_by ts => ts.length
decreasing_by
  have := length_afterNewline (afterContent ts)
  have := length_afterContent ts
  simp only [List.length_cons]
  omega

theorem length_of_readLines {ts rest : List Token} {lines : List Line}
    (h : readLines ts = .ok (lines, rest)) : rest.length ≤ ts.length := by
  fun_induction readLines ts generalizing lines rest with
  | case1 => cases h; simp
  | case2 dash ts _ _ more rest' heq ih =>
    cases h
    have := ih heq
    have := length_afterNewline (afterContent ts)
    have := length_afterContent ts
    simp only [List.length_cons]
    omega
  | case3 => cases h
  | case4 => cases h
  | case5 => cases h; simp

/-- At least one line. -/
def readBodyLines (ts : List Token) : Except ParseError (List Line × List Token) :=
  match readLines ts with
  | .ok ([], rest) => .error ⟨.noLines (Token.peek rest).text, (Token.peek rest).location⟩
  | other => other

theorem length_of_readBodyLines {ts rest : List Token} {lines : List Line}
    (h : readBodyLines ts = .ok (lines, rest)) : rest.length ≤ ts.length := by
  rw [readBodyLines] at h
  split at h
  · cases h
  · exact length_of_readLines h

/-- Blanks after the head of a clause mean nothing. -/
def skipBlanks (ts : List Token) : List Token := ts.dropWhile fun t => t.kind = .blanks

theorem length_skipBlanks (ts : List Token) : (skipBlanks ts).length ≤ ts.length :=
  (List.dropWhile_suffix _).length_le

/-- The condition of a case, up to the end of its line. -/
def readCondition (ts : List Token) : Except ParseError (String × List Token) := do
  let (condition, ts) ← expect .expression ts
  let ts ← endLine (skipBlanks ts)
  return ((Segment.expression condition.text).inner, ts)

theorem length_of_readCondition {ts rest : List Token} {condition : String}
    (h : readCondition ts = .ok (condition, rest)) : rest.length ≤ ts.length := by
  obtain ⟨⟨t, ts₁⟩, h₁, h⟩ := bind_eq_ok.1 h
  obtain ⟨ts₂, h₂, h⟩ := bind_eq_ok.1 h
  cases h
  have := length_of_expect h₁
  have := length_of_endLine h₂
  have := length_skipBlanks ts₁
  omega

set_option linter.unusedVariables false in
/-- As many cases as start here. -/
def readCases (ts : List Token) : Except ParseError (List Clause × List Token) :=
  match ts with
  | dash :: keyword :: rest =>
    if startsClause .caseKeyword (dash :: keyword :: rest) then
      match hc : readCondition rest with
      | .error e => .error e
      | .ok (condition, afterCondition) =>
        match hl : readBodyLines afterCondition with
        | .error e => .error e
        | .ok (lines, afterLines) =>
          match readCases afterLines with
          | .error e => .error e
          | .ok (more, rest) => .ok (⟨some condition, lines, dash.location⟩ :: more, rest)
    else .ok ([], dash :: keyword :: rest)
  | other => .ok ([], other)
termination_by ts.length
decreasing_by
  have h₁ := length_of_readCondition hc
  have h₂ := length_of_readBodyLines hl
  simp only [List.length_cons]
  omega

theorem length_of_readCases {ts rest : List Token} {cases : List Clause}
    (h : readCases ts = .ok (cases, rest)) : rest.length ≤ ts.length := by
  fun_induction readCases ts generalizing cases rest with
  | case4 dash keyword ts _ condition ts₁ hc lines ts₂ hl more ts₃ heq ih =>
    cases h
    have := ih heq
    have := length_of_readCondition hc
    have := length_of_readBodyLines hl
    simp only [List.length_cons]
    omega
  | _ => cases h <;> simp

def readDefault (ts : List Token) : Except ParseError (Clause × List Token) :=
  match ts with
  | dash :: keyword :: rest =>
    if startsClause .defaultKeyword (dash :: keyword :: rest) then do
      let rest ← endLine (skipBlanks rest)
      let (lines, rest) ← readBodyLines rest
      return (⟨none, lines, dash.location⟩, rest)
    else .error ⟨.noDefault dash.text, dash.location⟩
  | other => .error ⟨.noDefault (Token.peek other).text, (Token.peek other).location⟩

theorem length_of_readDefault {ts rest : List Token} {clause : Clause}
    (h : readDefault ts = .ok (clause, rest)) : rest.length ≤ ts.length := by
  unfold readDefault at h
  split at h
  · rename_i rest'
    split at h
    · obtain ⟨ts₁, h₁, h⟩ := bind_eq_ok.1 h
      obtain ⟨⟨lines, ts₂⟩, h₂, h⟩ := bind_eq_ok.1 h
      cases h
      have := length_of_endLine h₁
      have := length_of_readBodyLines h₂
      have := length_skipBlanks rest'
      simp only [List.length_cons]
      omega
    · cases h
  · cases h

/-- A body is conditional exactly when its first line is a case. -/
def readBody (ts : List Token) : Except ParseError (Body × List Token) :=
  if startsClause .caseKeyword ts then do
    let (cases, ts) ← readCases ts
    let (otherwise, ts) ← readDefault ts
    return (.conditional cases otherwise, ts)
  else do
    let (lines, ts) ← readBodyLines ts
    return (.choice lines, ts)

theorem length_of_readBody {ts rest : List Token} {body : Body}
    (h : readBody ts = .ok (body, rest)) : rest.length ≤ ts.length := by
  rw [readBody] at h
  split at h
  · obtain ⟨⟨_, ts₁⟩, h₁, h⟩ := bind_eq_ok.1 h
    obtain ⟨⟨_, ts₂⟩, h₂, h⟩ := bind_eq_ok.1 h
    cases h
    have := length_of_readCases h₁
    have := length_of_readDefault h₂
    omega
  · obtain ⟨⟨_, ts₁⟩, h₁, h⟩ := bind_eq_ok.1 h
    cases h
    exact length_of_readBodyLines h₁

/-- What follows the mark that opens a definition at `location`. -/
def readDefinition (location : Location) (ts : List Token) :
    Except ParseError (Template × List Token) := do
  let (name, ts) ← readName ts
  let (parameters, ts) ← readParameters ts
  let ts ← endLine ts
  let (body, ts) ← readBody ts
  return (⟨name, parameters, body, location⟩, ts)

theorem length_of_readDefinition {location : Location} {ts rest : List Token} {t : Template}
    (h : readDefinition location ts = .ok (t, rest)) : rest.length ≤ ts.length := by
  obtain ⟨⟨_, ts₁⟩, h₁, h⟩ := bind_eq_ok.1 h
  obtain ⟨⟨_, ts₂⟩, h₂, h⟩ := bind_eq_ok.1 h
  obtain ⟨ts₃, h₃, h⟩ := bind_eq_ok.1 h
  obtain ⟨⟨_, ts₄⟩, h₄, h⟩ := bind_eq_ok.1 h
  cases h
  have := length_of_readName h₁
  have := length_of_readParameters h₂
  have := length_of_endLine h₃
  have := length_of_readBody h₄
  omega

set_option linter.unusedVariables false in
/-- Every template up to the end of the input. -/
def readAll (ts : List Token) : Except ParseError (List Template) :=
  match ts with
  | [] => .ok []
  | t :: rest =>
    match t.kind with
    | .newline => readAll rest
    | .endOfInput => .ok []
    | .hash =>
      match h : readDefinition t.location rest with
      | .error e => .error e
      | .ok (template, rest') =>
        match readAll rest' with
        | .error e => .error e
        | .ok more => .ok (template :: more)
    | _ => .error (refuse (t :: rest) [.hash, .newline])
termination_by ts.length
decreasing_by
  · simp
  · have := length_of_readDefinition h
    simp only [List.length_cons]
    omega

end Template

namespace SourceFile

/-- The file that the tokens make up, without a name, by the grammar

    file       = (NEWLINE | template)*
    template   = '#' name parameters? newline body
    name       = IDENTIFIER ('.' IDENTIFIER)*
    parameters = '(' IDENTIFIER (',' IDENTIFIER)* ')'
    body       = lines | ('-' CASE EXPRESSION newline lines)+ '-' DEFAULT newline lines
    lines      = ('-' content* newline)+

in which the end of the input counts as a newline. -/
def ofTokens (ts : List Token) : Except ParseError SourceFile := do
  let templates ← Template.readAll ts
  return ⟨templates, none⟩

def parse (source : String) : Except ParseError SourceFile := do
  let tokens ← Token.ofSource source
  ofTokens tokens

/-- Reads a source that has a name, which errors and templates then carry. -/
def parseNamed (source name : String) : Except ParseError SourceFile :=
  match parse source with
  | .error e => .error (e.named name)
  | .ok file => .ok (file.named name)

end SourceFile

end Phrasebook
