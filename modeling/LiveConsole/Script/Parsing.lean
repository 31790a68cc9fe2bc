import LiveConsole.Script.Lexer
import LiveConsole.Script.Tree

/-!
# Recognising token sequences

A parser reads tokens from a position on. It succeeds with a result and the next position, or it
misses, so that another alternative is tried, or it stops for good. All alternatives share one
memory: how far tokens were looked at, and which rules are known to match or miss where. The rules
of the grammar refer to each other through a table, which is tied together under a depth bound.
-/

set_option autoImplicit false

namespace LiveConsole.Script

/-- What is wrong with a script, and on which line, unless it concerns the script as a whole. -/
structure Complaint where
  text : Text
  line : Option Nat

namespace Complaint

def tooDeep : Complaint :=
  ⟨"maximum recursion depth exceeded during compilation", none⟩

end Complaint

/-- The rules through which the grammar refers to itself. -/
inductive Rule where
  | expression
  | named
  | disjunction
  | inversion
  | factor
  | arguments
  | singleTarget
  | annotationTarget
  | starTarget
  | atomTarget
  | deleteTarget
  | alternative
  | block
deriving DecidableEq

abbrev Rule.Result : Rule → Type
  | .arguments => List Argument
  | .alternative => List Stmt
  | .block => List Stmt
  | _ => Expr

/-- Why parsing stopped. -/
inductive Trouble where
  | lexical
  | complaint (c : Complaint)
  | tooDeep

/-- What is known of a rule at a position: that it misses, or its result and the next position. -/
structure Known where
  rule : Rule
  outcome : Option (rule.Result × Nat)

/-- What all alternatives share: the number of tokens looked at, whether mistakes are to be
explained, whether a chain of operators was too long, and what is known at each position. -/
structure Memory where
  seen : Nat
  explains : Bool
  overlong : Bool
  known : Array (List Known)

inductive Reply (α : Type) where
  | done (a : α) (next : Nat)
  | miss
  | stop (t : Trouble)

def Parser (α : Type) : Type :=
  Tokens → Nat → Memory → Reply α × Memory

namespace Parser

variable {α β : Type}

@[inline] protected def pure (a : α) : Parser α :=
  fun _ at_ mem => (.done a at_, mem)

@[inline] protected def bind (p : Parser α) (f : α → Parser β) : Parser β :=
  fun tokens at_ mem =>
    match p tokens at_ mem with
    | (.done a next, mem) => f a tokens next mem
    | (.miss, mem) => (.miss, mem)
    | (.stop t, mem) => (.stop t, mem)

instance : Monad Parser where
  pure := Parser.pure
  bind := Parser.bind

@[inline] def miss : Parser α :=
  fun _ _ mem => (.miss, mem)

@[inline] def stop (t : Trouble) : Parser α :=
  fun _ _ mem => (.stop t, mem)

/-- Tries another parser at the same position where the first misses. -/
@[inline] def or (p : Parser α) (q : Unit → Parser α) : Parser α :=
  fun tokens at_ mem =>
    match p tokens at_ mem with
    | (.miss, mem) => q () tokens at_ mem
    | r => r

instance : OrElse (Parser α) where
  orElse := or

/-- Once the first parser succeeds there is no way back; else the last one is tried. -/
@[inline] def commit (p : Parser α) (f : α → Parser β) (q : Parser β) : Parser β :=
  fun tokens at_ mem =>
    match p tokens at_ mem with
    | (.done a next, mem) => f a tokens next mem
    | (.miss, mem) => q tokens at_ mem
    | (.stop t, mem) => (.stop t, mem)

@[inline] def optional (p : Parser α) : Parser (Option α) :=
  fun tokens at_ mem =>
    match p tokens at_ mem with
    | (.done a next, mem) => (.done (some a) next, mem)
    | (.miss, mem) => (.done none at_, mem)
    | (.stop t, mem) => (.stop t, mem)

/-- Succeeds where the parser does, without moving on. -/
@[inline] def ahead (p : Parser α) : Parser Unit :=
  fun tokens at_ mem =>
    match p tokens at_ mem with
    | (.done _ _, mem) => (.done () at_, mem)
    | (.miss, mem) => (.miss, mem)
    | (.stop t, mem) => (.stop t, mem)

/-- Succeeds where the parser misses, without moving on. -/
@[inline] def barring (p : Parser α) : Parser Unit :=
  fun tokens at_ mem =>
    match p tokens at_ mem with
    | (.done _ _, mem) => (.miss, mem)
    | (.miss, mem) => (.done () at_, mem)
    | (.stop t, mem) => (.stop t, mem)

/-- Repeats a step that carries a value along until it misses; at most `rounds` times. -/
def iterate (p : α → Parser α) : (rounds : Nat) → α → Parser α
  | 0, a => Parser.pure a
  | more + 1, a => fun tokens at_ mem =>
    match p a tokens at_ mem with
    | (.done b next, mem) => iterate p more b tokens next mem
    | (.miss, mem) => (.done a at_, mem)
    | (.stop t, mem) => (.stop t, mem)

/-- As often as it succeeds. Every round uses up a token. -/
def many (p : Parser α) : Parser (List α) := fun tokens at_ mem =>
  Parser.bind (iterate (fun found => Parser.bind p fun a => Parser.pure (a :: found))
    (tokens.all.size + 1) []) (fun found => Parser.pure found.reverse) tokens at_ mem

def several (p : Parser α) : Parser (List α) := do
  let first ← p
  let rest ← many p
  return first :: rest

/-- The token at the current position. -/
@[inline] def peek : Parser Token := fun tokens at_ mem =>
  let mem := if mem.seen ≤ at_ then { mem with seen := at_ + 1 } else mem
  match tokens.all[at_]? with
  | some t => (.done t at_, mem)
  | none => (.stop .lexical, mem)

@[inline] def advance : Parser Unit :=
  fun _ at_ mem => (.done () (at_ + 1), mem)

/-- A token with a property. -/
@[inline] def token (p : Token.Kind → Bool) : Parser Token := do
  let t ← peek
  if p t.kind then
    advance
    return t
  else miss

def operator (s : String) : Parser Token :=
  token fun
    | .operator o => o = s
    | _ => false

def keyword (s : String) : Parser Token :=
  token fun
    | .name n => n = s
    | _ => false

def newline : Parser Token :=
  token fun
    | .newline => true
    | _ => false

def indent : Parser Token :=
  token fun
    | .indent => true
    | _ => false

def dedent : Parser Token :=
  token fun
    | .dedent => true
    | _ => false

def finish : Parser Token :=
  token fun
    | .finish => true
    | _ => false

/-- A name that is no keyword, and its line. -/
def name : Parser (Text × Nat) := do
  let t ← peek
  match t.kind with
  | .name n =>
    if Token.isKeyword n then miss
    else
      advance
      return (Text.ofString n, t.line)
  | _ => miss

def separated (separator : Parser β) (p : Parser α) : Parser (List α) := do
  let first ← p
  let rest ← many do
    let _ ← separator
    p
  return first :: rest

def complain (text : Text) (line : Nat) : Parser α :=
  stop (.complaint ⟨text, some line⟩)

/-- Complains about the last token that was looked at. -/
def complainSeen (text : Text) : Parser α := fun tokens _ mem =>
  (.stop (.complaint ⟨text, tokens.all[mem.seen - 1]?.map Token.line⟩), mem)

/-- A parser that only explains mistakes; it takes part when the rest has failed. -/
@[inline] def explaining (p : Parser α) : Parser α := fun tokens at_ mem =>
  if mem.explains then p tokens at_ mem else (.miss, mem)

/-- Runs without explanations. -/
@[inline] def silently (p : Parser α) : Parser α := fun tokens at_ mem =>
  match p tokens at_ { mem with explains := false } with
  | (r, after) => (r, { after with explains := mem.explains })

/-- An operator that must stand here. -/
def demand (s : String) : Parser Token := do
  let t ← peek
  match t.kind with
  | .operator o =>
    if o = s then
      advance
      return t
    else complain ("expected '" ++ (s : Text) ++ "'") t.line
  | _ => complain ("expected '" ++ (s : Text) ++ "'") t.line

/-- The number of brackets open after the token before the current position. -/
def depthBefore : Parser Nat := fun tokens at_ mem =>
  (.done (tokens.all[at_ - 1]?.map Token.depth |>.getD 0) at_, mem)

/-- The most operators a chain may have. -/
def chainLimit : Nat := 2900

/-- Repeats a step as long as it succeeds, as for operators that group to the left. -/
def chain (first : α) (p : α → Parser α) : Parser α := fun tokens at_ mem =>
  let step : α × Nat → Parser (α × Nat) := fun (a, n) => do
    let b ← p a
    return (b, n + 1)
  match iterate step (tokens.all.size + 1) (first, 0) tokens at_ mem with
  | (.done (a, n) next, mem) =>
    (.done a next, if n > chainLimit then { mem with overlong := true } else mem)
  | (.miss, mem) => (.miss, mem)
  | (.stop t, mem) => (.stop t, mem)

end Parser

/-- The parsers of all rules. -/
abbrev Rules := (r : Rule) → Parser r.Result

namespace Memory

/-- What is known of a rule among the entries of a position. -/
def outcome? (r : Rule) : List Known → Option (Option (r.Result × Nat))
  | [] => none
  | k :: rest => if h : k.rule = r then some (h ▸ k.outcome) else outcome? r rest

def start (tokens : Tokens) : Memory :=
  ⟨0, false, false, Array.replicate (tokens.all.size + 1) []⟩

/-- A second look: nothing is known any more, and mistakes are explained. -/
def again (tokens : Tokens) (mem : Memory) : Memory :=
  { mem with explains := true, known := Array.replicate (tokens.all.size + 1) [] }

end Memory

namespace Rules

/-- A rule whose outcome is remembered. -/
def remembered (r : Rule) (p : Parser r.Result) : Parser r.Result := fun tokens at_ mem =>
  match Memory.outcome? r (mem.known.getD at_ []) with
  | some (some (a, next)) => (.done a next, mem)
  | some none => (.miss, mem)
  | none =>
    match p tokens at_ mem with
    | (.done a next, mem) =>
      (.done a next, { mem with known := mem.known.modify at_ (⟨r, some (a, next)⟩ :: ·) })
    | (.miss, mem) => (.miss, { mem with known := mem.known.modify at_ (⟨r, none⟩ :: ·) })
    | (.stop t, mem) => (.stop t, mem)

/-- Ties a grammar together; rules may call each other up to a depth. -/
def knot (grammar : Rules → Rules) : (depth : Nat) → Rules
  | 0, _ => Parser.stop .tooDeep
  | depth + 1, r => remembered r (grammar (knot grammar depth) r)

end Rules

namespace Tokens

/-- The complaint about a text whose division into tokens stopped. -/
def lexicalComplaint (f : Lexer.Failure) : Complaint :=
  match f.problem, f.brackets with
  | .cutOff, (opener, line) :: _ => ⟨"'" ++ Text.ofChar opener ++ "' was never closed", some line⟩
  | problem, _ => ⟨problem.message, some f.line⟩

/-- A complaint about the tokens seen so far, unless the text after them is worse. -/
def outranked (tokens : Tokens) (seen : Nat) (c : Complaint) : Complaint :=
  match tokens.failure with
  | none => c
  | some f =>
    if f.problem.isHard then lexicalComplaint f
    else
      match f.brackets, tokens.all[seen - 1]? with
      | (opener, line) :: _, some last =>
        if last.line > line then ⟨"'" ++ Text.ofChar opener ++ "' was never closed", some line⟩
        else c
      | _, _ => c

def resolve (tokens : Tokens) (seen : Nat) : Trouble → Complaint
  | .lexical =>
    match tokens.failure with
    | some f => lexicalComplaint f
    | none => .tooDeep
  | .tooDeep => .tooDeep
  | .complaint c => outranked tokens seen c

/-- The complaint when nothing matches: about the last token that was looked at in the first
run. -/
def unexplained (tokens : Tokens) (first second : Nat) : Complaint :=
  match tokens.all[first - 1]? with
  | none => ⟨"invalid syntax", none⟩
  | some last =>
    match last.kind with
    | .indent => ⟨"unexpected indent", some last.line⟩
    | .dedent => ⟨"unexpected unindent", some last.line⟩
    | _ => outranked tokens second ⟨"invalid syntax", some last.line⟩

/-- Runs a parser on all tokens, and once more for an explanation if it misses. -/
def parse {α : Type} (tokens : Tokens) (p : Parser α) : Except Complaint α :=
  match p tokens 0 (.start tokens) with
  | (.done a _, mem) => if mem.overlong then .error .tooDeep else .ok a
  | (.stop t, mem) => .error (resolve tokens mem.seen t)
  | (.miss, mem) =>
    match p tokens 0 (mem.again tokens) with
    | (.stop t, after) => .error (resolve tokens after.seen t)
    | (_, after) => .error (unexplained tokens mem.seen after.seen)

end Tokens

end LiveConsole.Script
