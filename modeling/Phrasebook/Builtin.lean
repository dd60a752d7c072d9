import Phrasebook.Expression.Eval
import Phrasebook.Registry
import Phrasebook.Result

namespace Phrasebook

/-- Renders a template with a scope. -/
abbrev Enter (m : Type → Type) := String → Value → ExceptT EvaluationError m String

/-- The scope that a template gets from arguments. One argument for a template without parameters
is the scope itself; otherwise every parameter is bound to the argument in its place. -/
def Registry.bindArguments (r : Registry) (name : String) (arguments : List Value) :
    Except EvaluationError Value :=
  match r.parameters? name with
  | none => .error (.unknownTemplate name)
  | some parameters =>
    match parameters, arguments with
    | [], [v] => .ok v
    | parameters, arguments =>
      if parameters.length = arguments.length then
        .ok (.mapping (Fields.ofPairs (parameters.zip arguments)))
      else .error (.argumentCountMismatch name parameters.length arguments.length)

namespace Builtin

def joinTexts (separator : String) (texts : List String) : String := separator.intercalate texts

/-- `a, b and c`; fewer than three items are all joined by the last separator. -/
def joinWithLast (separator last : String) (items : List String) : String :=
  match items.reverse with
  | tail :: c :: b :: rest =>
    joinTexts (separator ++ " ") (c :: b :: rest).reverse ++ " " ++ last ++ " " ++ tail
  | _ => joinTexts (" " ++ last ++ " ") items

/-- The items of a first argument, which has to be a list. -/
def listItems (function : String) : Value → Except EvaluationError (List Value)
  | .list items => .ok items
  | v => .error (.argumentShape function ("first argument must be a list, found " ++ v.typeName))

/-- The template that a second argument names. -/
def templateName (function : String) : Value → Except EvaluationError String
  | .text name => .ok name
  | v =>
    .error (.argumentShape function
      ("second argument must be a template name, found " ++ v.typeName))

def separatorText (function : String) : Value → Except EvaluationError String
  | .text s => .ok s
  | v => .error (.argumentShape function ("separator must be a string, found " ++ v.typeName))

def wrongCount (function expected : String) (found : Nat) : EvaluationError :=
  .argumentShape function ("expects " ++ expected ++ ", got " ++ toString found)

def count (function : String) (arguments : List Value) : Except EvaluationError Value :=
  match arguments with
  | [.list items] => .ok (.int items.length)
  | [v] => .error (.typeMismatch function "list" v.typeName)
  | _ => .error (wrongCount function "1 argument(s)" arguments.length)

/-- The texts of a list's items joined by a separator and a space, with a separator of its own in
front of the last item if one is given. -/
def join (function : String) (arguments : List Value) : Except EvaluationError Value :=
  match arguments with
  | [list, separator] => do
    let items ← listItems function list
    let separator ← separatorText function separator
    return .text (joinTexts (separator ++ " ") (items.map Value.toText))
  | [list, separator, last] => do
    let items ← listItems function list
    let separator ← separatorText function separator
    let last ← separatorText function last
    return .text (joinWithLast separator last (items.map Value.toText))
  | _ => .error (wrongCount function "2 or 3 arguments" arguments.length)

variable {m : Type → Type} [Monad m]

/-- Renders the template with each item as its only argument. -/
def renderItems (registry : Registry) (enter : Enter m) (name : String) :
    List Value → ExceptT EvaluationError m (List String)
  | [] => pure []
  | item :: items => do
    let scope ← ofResult (registry.bindArguments name [item])
    let text ← enter name scope
    let texts ← renderItems registry enter name items
    return text :: texts

/-- Renders a template for each item of a list, after looking at both arguments. -/
def renderEach (registry : Registry) (enter : Enter m) (function : String) (list name : Value) :
    ExceptT EvaluationError m (List String) := do
  let items ← ofResult (listItems function list)
  let name ← ofResult (templateName function name)
  if registry.contains name then renderItems registry enter name items
  else throw (.unknownTemplate name)

/-- The renderings of a template for the items of a list. -/
def foreach (registry : Registry) (enter : Enter m) (function : String) (arguments : List Value) :
    ExceptT EvaluationError m Value :=
  match arguments with
  | [list, name] => do
    let texts ← renderEach registry enter function list name
    return .list (texts.map Value.text)
  | _ => throw (wrongCount function "2 argument(s)" arguments.length)

/-- The word in front of the last item where none is given. -/
def defaultLast : Value := .text "and"

/-- Renders a template for the items of a list, and joins the renderings after that. -/
def joinEach (registry : Registry) (enter : Enter m) (function : String)
    (list name separator last : Value) : ExceptT EvaluationError m Value := do
  let texts ← renderEach registry enter function list name
  let separator ← ofResult (separatorText function separator)
  let last ← ofResult (separatorText function last)
  return .text (joinWithLast separator last texts)

/-- The joined renderings of a template for the items of a list. -/
def foreachThenJoin (registry : Registry) (enter : Enter m) (function : String)
    (arguments : List Value) : ExceptT EvaluationError m Value :=
  match arguments with
  | [list, name, separator] => joinEach registry enter function list name separator defaultLast
  | [list, name, separator, last] => joinEach registry enter function list name separator last
  | _ => throw (wrongCount function "3 or 4 arguments" arguments.length)

def named? (registry : Registry) (enter : Enter m) (name : String) :
    Option (List Value → ExceptT EvaluationError m Value) :=
  match name with
  | "count" => some fun arguments => ofResult (count name arguments)
  | "join" => some fun arguments => ofResult (join name arguments)
  | "foreach" => some (foreach registry enter name)
  | "foreachThenJoin" | "humanize" | "newParameter" => some (foreachThenJoin registry enter name)
  | _ => none

def inExpression (x : ExceptT EvaluationError m Value) : ExceptT ExpressionError m Value :=
  ExceptT.adapt ExpressionError.template x

/-- The functions that expressions in templates have: those above, and behind them the fallback. -/
def calls (registry : Registry) (fallback : Functions) (enter : Enter m) : Expr.Calls m :=
  fun name =>
    match named? registry enter name with
    | some f => some fun arguments => inExpression (f arguments)
    | none => Expr.Calls.ofFunctions fallback name

section

variable {function : String} {arguments : List Value} {e : EvaluationError}

theorem isRefusal_of_listItems {v : Value} (h : listItems function v = .error e) :
    e.IsRefusal := by
  unfold listItems at h
  split at h
  · contradiction
  · cases h
    trivial

theorem isRefusal_of_templateName {v : Value} (h : templateName function v = .error e) :
    e.IsRefusal := by
  unfold templateName at h
  split at h
  · contradiction
  · cases h
    trivial

theorem isRefusal_of_separatorText {v : Value} (h : separatorText function v = .error e) :
    e.IsRefusal := by
  unfold separatorText at h
  split at h
  · contradiction
  · cases h
    trivial

theorem isRefusal_of_count (h : count function arguments = .error e) : e.IsRefusal := by
  unfold count at h
  split at h
  · contradiction
  · cases h
    trivial
  · cases h
    trivial

theorem isRefusal_of_join (h : join function arguments = .error e) : e.IsRefusal := by
  unfold join at h
  split at h
  · rcases bind_eq_error.1 h with hlist | ⟨items, -, h⟩
    · exact isRefusal_of_listItems hlist
    rcases bind_eq_error.1 h with hseparator | ⟨separator, -, h⟩
    · exact isRefusal_of_separatorText hseparator
    contradiction
  · rcases bind_eq_error.1 h with hlist | ⟨items, -, h⟩
    · exact isRefusal_of_listItems hlist
    rcases bind_eq_error.1 h with hseparator | ⟨separator, -, h⟩
    · exact isRefusal_of_separatorText hseparator
    rcases bind_eq_error.1 h with hlast | ⟨last, -, h⟩
    · exact isRefusal_of_separatorText hlast
    contradiction
  · cases h
    trivial

end

end Builtin

/-- Binding arguments fails for an unknown template and for a wrong number of arguments only. -/
theorem Registry.not_isCycle_of_bindArguments {r : Registry} {name : String}
    {arguments : List Value} {e : EvaluationError} (h : r.bindArguments name arguments = .error e) :
    ¬ e.IsCycle := by
  unfold bindArguments at h
  split at h
  · cases h
    exact id
  · split at h
    · cases h
    · split at h
      · cases h
      · cases h
        exact id

end Phrasebook
