import Phrasebook.Template
import Phrasebook.Token

namespace Phrasebook

/-- A rule derives the tokens in front of the rest, which then describe the value. -/
def Rule (α : Type) := List Token → α → List Token → Prop

namespace Rule

variable {α β : Type}

instance : Applicative Rule where
  pure a := fun ts b rest => a = b ∧ ts = rest
  map f r := fun ts b rest => ∃ a, r ts a rest ∧ f a = b
  seq r s := fun ts b rest => ∃ f mid a, r ts f mid ∧ s () mid a rest ∧ f a = b
  seqLeft r s := fun ts a rest => ∃ mid b, r ts a mid ∧ s () mid b rest
  seqRight r s := fun ts b rest => ∃ mid a, r ts a mid ∧ s () mid b rest

instance : OrElse (Rule α) where
  orElse r s := fun ts a rest => r ts a rest ∨ s () ts a rest

section

variable {r : Rule α} {s : Rule β} {ts rest : List Token} {a : α} {b : β}

@[simp] theorem pure_iff {c : α} : (pure a : Rule α) ts c rest ↔ a = c ∧ ts = rest := Iff.rfl

@[simp] theorem map_iff {f : α → β} : (f <$> r) ts b rest ↔ ∃ a, r ts a rest ∧ f a = b := Iff.rfl

@[simp] theorem seq_iff {r : Rule (α → β)} {s : Rule α} :
    (r <*> s) ts b rest ↔ ∃ f mid a, r ts f mid ∧ s mid a rest ∧ f a = b := Iff.rfl

@[simp] theorem seqLeft_iff : (r <* s) ts a rest ↔ ∃ mid b, r ts a mid ∧ s mid b rest := Iff.rfl

@[simp] theorem seqRight_iff : (r *> s) ts b rest ↔ ∃ mid a, r ts a mid ∧ s mid b rest := Iff.rfl

@[simp] theorem orElse_iff {s : Rule α} : (r <|> s) ts a rest ↔ r ts a rest ∨ s ts a rest := Iff.rfl

end

/-- A token of this kind. -/
inductive Terminal (kind : TokenKind) : List Token → Token → List Token → Prop where
  | intro {t : Token} {rest : List Token} (h : t.kind = kind) : Terminal kind (t :: rest) t rest

/-- The rule any number of times. -/
inductive Many (r : Rule α) : List Token → List α → List Token → Prop where
  | nil {ts : List Token} : Many r ts [] ts
  | cons {ts mid rest : List Token} {a : α} {as : List α} (h : r ts a mid)
      (hmore : Many r mid as rest) : Many r ts (a :: as) rest

def terminal (kind : TokenKind) : Rule Token := Terminal kind

/-- The end of the input, which is left where it is. -/
def atEnd : Rule Unit := fun ts _ rest => (∀ t ∈ ts.head?, t.kind = .endOfInput) ∧ ts = rest

def many (r : Rule α) : Rule (List α) := Many r

def many1 (r : Rule α) : Rule (List α) := List.cons <$> r <*> many r

end Rule

namespace Grammar

open Rule

/-- The text of plain tokens next to each other. Without characters it leaves no segment. -/
def plainSegments (run : List Token) : List Segment :=
  let text := String.join (run.map Token.text)
  if text = "" then [] else [.text text]

def segment? (t : Token) : Option Segment :=
  match t.kind with
  | .expression => some (.expression t.text)
  | .reference => some (.reference t.text)
  | .block => some (.block t.text)
  | _ => none

/-- The segments that the tokens of a line describe: a run of plain tokens, as long as it goes on,
is one text. -/
inductive Joined : List Token → List Segment → Prop where
  | nil : Joined [] []
  | plain {run ts : List Token} {ss : List Segment} (hne : run ≠ [])
      (hrun : ∀ t ∈ run, t.kind.isPlain) (hnext : ∀ t ∈ ts.head?, t.kind.isPlain = false)
      (h : Joined ts ss) :
      Joined (run ++ ts) (plainSegments run ++ ss)
  | island {t : Token} {ts : List Token} {s : Segment} {ss : List Segment}
      (hs : segment? t = some s) (h : Joined ts ss) : Joined (t :: ts) (s :: ss)

def newline : Rule Unit :=
  (fun _ => ()) <$> terminal .newline <|> atEnd

def name : Rule String :=
  (fun first more => ".".intercalate (first.text :: more.map Token.text)) <$>
    terminal .identifier <*> many (terminal .dot *> terminal .identifier)

def parameters : Rule (List String) :=
  ((fun first more => first.text :: more.map Token.text) <$>
    (terminal .openParen *> terminal .identifier) <*>
      many (terminal .comma *> terminal .identifier) <* terminal .closeParen) <|> pure []

def content : Rule (List Segment) := fun ts ss rest =>
  ∃ used, ts = used ++ rest ∧ (∀ t ∈ used, t.kind.isContent) ∧ Joined used ss

def line : Rule Line :=
  (fun dash segments => ⟨segments, dash.location⟩) <$> terminal .dash <*> content <* newline

def lines : Rule (List Line) := many1 line

def blanks : Rule (List Token) := many (terminal .blanks)

def caseRule : Rule Clause :=
  (fun dash condition lines =>
    ⟨some (Segment.expression condition.text).inner, lines, dash.location⟩) <$>
    terminal .dash <* terminal .caseKeyword <*> terminal .expression <* blanks <* newline <*> lines

def defaultRule : Rule Clause :=
  (fun dash lines => ⟨none, lines, dash.location⟩) <$>
    terminal .dash <* terminal .defaultKeyword <* blanks <* newline <*> lines

def body : Rule Body :=
  Body.choice <$> lines <|> Body.conditional <$> many1 caseRule <*> defaultRule

def definition : Rule Template :=
  (fun hash name parameters body => ⟨name, parameters, body, hash.location⟩) <$>
    terminal .hash <*> name <*> parameters <* newline <*> body

def paragraph : Rule (Option Template) := (fun _ => none) <$> newline <|>
  some <$> definition

/-- The grammar of template files:

    file       = paragraph+ EOF
    paragraph  = newline | definition
    newline    = NEWLINE | EOF
    definition = '#' name parameters? newline body
    name       = IDENTIFIER ('.' IDENTIFIER)*
    parameters = '(' IDENTIFIER (',' IDENTIFIER)* ')'
    body       = lines | case+ default
    lines      = ('-' content* newline)+
    case       = '-' CASE EXPRESSION BLANKS* newline lines
    default    = '-' DEFAULT BLANKS* newline lines

The end of the input counts as a newline wherever one is wanted, and is still there after that. -/
def file : Rule SourceFile :=
  (fun paragraphs => ⟨paragraphs.filterMap id, none⟩) <$> many1 paragraph <* terminal .endOfInput

end Grammar

end Phrasebook
