/-
A stand-in for what compiles patterns. It finds which texts are regular
expressions that can be put to use: groups are closed and named once, repetitions follow something that
can be repeated, escapes and sets are known, and the automaton stays
small.

The text is read once from left to right. What is kept is a frame for
every group that is open.
-/
import Sdwan.Platform
import Sdwan.Stock.SetName
import Sdwan.Text.Numeral

namespace Sdwan.Stock

-- ============================================== blanks

/-- The text behind the first line end. -/
def afterLine (cs : List Char) : List Char := (cs.dropWhile (· != '\n')).drop 1

/-- The text behind blanks and comments. -/
def skipSpace (cs : List Char) : List Char :=
  let rec go : (fuel : Nat) → List Char → List Char
    | 0, cs => cs
    | fuel + 1, cs =>
      match cs with
      | [] => []
      | c :: rest =>
        if Text.isBlank c then go fuel rest
        else if c == '#' then go fuel (afterLine rest)
        else cs
  go cs.length cs

/-- The same where blanks are of no account. -/
def skipIf (verbose : Bool) (cs : List Char) : List Char := if verbose then skipSpace cs else cs

-- ============================================== escapes

/-- What an escape or a single character stands for. -/
inductive Item where
  | char (c : Char)
  /-- A set of characters, and the states its automaton takes. -/
  | set (states : Nat)
  /-- A place between characters. -/
  | place
deriving DecidableEq, Repr

/-- Characters with a meaning of their own. -/
def isMeta (c : Char) : Bool :=
  c ∈ ['\\', '.', '+', '*', '?', '(', ')', '|', '[', ']', '\x7b', '\x7d', '^', '$', '#', '&',
    '-', '~']

/-- Characters that stand for themselves behind a backslash. -/
def isEscapable (c : Char) : Bool :=
  isMeta c
    || (c.toNat < 128 && !Text.isDigit c && !('a' ≤ c && c ≤ 'z') && !('A' ≤ c && c ≤ 'Z')
      && c != '<' && c != '>')

/-- The character with a number, if there is one. -/
def charOf? (n : Nat) : Option Char := if h : n.isValidChar then some (Char.ofNatAux n h) else none

/-- The character that hexadecimal digits stand for. -/
def hexChar? (ds : List Char) : Option Char :=
  if ds.isEmpty || !ds.all Text.isHexDigit then none
  else
    let n := Text.valueInBase 16 ds
    if n < UInt32.size then charOf? n else none

/-- The characters up to a closing brace, and the text behind it. -/
def upToBrace (verbose : Bool) : (fuel : Nat) → List Char → Option (List Char × List Char)
  | 0, _ => none
  | fuel + 1, cs =>
    match skipIf verbose cs with
    | [] => none
    | c :: rest =>
      if c == '\x7d' then some ([], rest)
      else (upToBrace verbose fuel rest).map fun (inner, rest) => (c :: inner, rest)

/-- Some digits, blanks between them skipped if they are of no account. -/
def digitsOf (verbose : Bool) : (count : Nat) → List Char → Option (List Char × List Char)
  | 0, cs => some ([], cs)
  | count + 1, cs =>
    match skipIf verbose cs with
    | [] => none
    | c :: rest => (digitsOf verbose count rest).map fun (ds, rest) => (c :: ds, rest)

/-- A character given by its number. -/
def hexEscape (verbose : Bool) (count : Nat) (cs : List Char) : Option (Item × List Char) :=
  match skipIf verbose cs with
  | [] => none
  | '\x7b' :: rest => do
    let (ds, rest) ← upToBrace verbose (rest.length + 1) rest
    let c ← hexChar? ds
    some (.char c, skipIf verbose rest)
  | cs => do
    let (ds, rest) ← digitsOf verbose count cs
    let c ← hexChar? ds
    some (.char c, skipIf verbose rest)

/-- The states for a set that a name stands for; a rough figure. -/
def namedSetStates : Nat := 200

/-- Whether a text in braces names a set. -/
def isSetExpression (cs : List Char) : Bool :=
  match Text.splitFirst (fun c => c == '=' || c == ':') cs with
  | none => isSetName cs
  | some (property, value) =>
    isSetValue (if property.getLast? == some '!' then property.dropLast else property) value

/-- A set given by its name. -/
def namedSet (verbose : Bool) (cs : List Char) : Option (Item × List Char) :=
  match skipIf verbose cs with
  | [] => none
  | '\x7b' :: rest => do
    let (inner, rest) ← upToBrace verbose (rest.length + 1) rest
    if isSetExpression inner then some (.set namedSetStates, rest) else none
  | c :: rest =>
    if c != '\\' && isSetName [c] then some (.set namedSetStates, skipIf verbose rest) else none

/-- The places that can be named in braces behind `\b`. -/
def wordPlaces : List String := ["start", "end", "start-half", "end-half"]

/-- What follows `\b`: a named place, or nothing that belongs to it. -/
def wordPlace (verbose : Bool) (cs : List Char) : Option (Item × List Char) :=
  match cs with
  | '\x7b' :: rest =>
    match skipIf verbose rest with
    | [] => none
    | c :: _ =>
      if ('a' ≤ c && c ≤ 'z') || ('A' ≤ c && c ≤ 'Z') || c == '-' then do
        let (inner, rest) ← upToBrace verbose (rest.length + 1) rest
        if String.ofList inner ∈ wordPlaces then some (.place, rest) else none
      else some (.place, cs)
  | cs => some (.place, cs)

/-- What stands behind a backslash. -/
def escape (verbose : Bool) : List Char → Option (Item × List Char)
  | [] => none
  | c :: rest =>
    if c == 'x' then hexEscape verbose 2 rest
    else if c == 'u' then hexEscape verbose 4 rest
    else if c == 'U' then hexEscape verbose 8 rest
    else if c == 'p' || c == 'P' then namedSet verbose rest
    else if c ∈ ['d', 'D', 's', 'S', 'w', 'W'] then some (.set namedSetStates, rest)
    else if isEscapable c then some (.char c, rest)
    else if c == 'a' then some (.char (Char.ofNat 7), rest)
    else if c == 'f' then some (.char (Char.ofNat 12), rest)
    else if c == 't' then some (.char '\t', rest)
    else if c == 'n' then some (.char '\n', rest)
    else if c == 'r' then some (.char '\r', rest)
    else if c == 'v' then some (.char (Char.ofNat 11), rest)
    else if c == 'b' then wordPlace verbose rest
    else if c ∈ ['A', 'z', 'B', '<', '>'] then some (.place, rest)
    else none

-- ============================================== sets in brackets

/-- One member of a set, or one end of a range. -/
def setItem (verbose : Bool) : List Char → Option (Item × List Char)
  | [] => none
  | '\\' :: rest => escape verbose rest
  | c :: rest => some (.char c, rest)

/-- A member of a set or a range between two characters. -/
def setRange (verbose : Bool) (cs : List Char) : Option (List Char) := do
  let (a, rest) ← setItem verbose cs
  if a == .place then none
  else
    match skipIf verbose rest with
    | [] => none
    | '-' :: after =>
      match skipIf verbose after with
      | [] => none
      | next :: more =>
        if next == ']' || next == '-' then some ('-' :: after)
        else do
          let (b, rest) ← setItem verbose (next :: more)
          match a, b with
          | .char x, .char y => if x ≤ y then some rest else none
          | _, _ => none
    | rest => some rest

/-- What follows an opening bracket: a caret, hyphens, and a closing
bracket that stands for itself. -/
def setOpen (verbose : Bool) (cs : List Char) : Option (List Char) :=
  let cs := skipIf verbose cs
  let cs := match cs with
    | '^' :: rest => skipIf verbose rest
    | cs => cs
  hyphens (cs.length + 1) true cs
where
  /-- Passes over the hyphens. -/
  hyphens : (fuel : Nat) → (first : Bool) → List Char → Option (List Char)
    | 0, _, _ => none
    | fuel + 1, first, cs =>
      match cs with
      | [] => none
      | '-' :: rest => hyphens fuel false (skipIf verbose rest)
      | ']' :: rest =>
        if first then
          match skipIf verbose rest with
          | [] => none
          | rest => some rest
        else some cs
      | cs => some cs

/-- A set named as `[:alpha:]`; the opening bracket has been read. -/
def bracketSet? (cs : List Char) : Option (List Char) :=
  match cs with
  | ':' :: rest =>
    let rest := match rest with
      | '^' :: more => more
      | rest => rest
    let name := rest.takeWhile (· != ':')
    if String.ofList name ∈ bracketSets then
      Text.afterPrefix? [':', ']'] (rest.dropWhile (· != ':'))
    else none
  | _ => none

/-- The text behind a set, with `depth` brackets open. -/
def setRest (verbose : Bool) : (fuel depth : Nat) → List Char → Option (List Char)
  | 0, _, _ => none
  | fuel + 1, depth, cs =>
    match skipIf verbose cs with
    | [] => none
    | '[' :: rest =>
      match bracketSet? rest with
      | some rest => setRest verbose fuel depth rest
      | none =>
        match setOpen verbose rest with
        | none => none
        | some rest => setRest verbose fuel (depth + 1) rest
    | ']' :: rest =>
      match depth with
      | 0 | 1 => some rest
      | depth + 1 => setRest verbose fuel depth rest
    | '&' :: '&' :: rest => setRest verbose fuel depth rest
    | '-' :: '-' :: rest => setRest verbose fuel depth rest
    | '~' :: '~' :: rest => setRest verbose fuel depth rest
    | cs =>
      match setRange verbose cs with
      | none => none
      | some rest => setRest verbose fuel depth rest

/-- The text behind a set whose opening bracket has been read. -/
def set? (verbose : Bool) (cs : List Char) : Option (List Char) :=
  match setOpen verbose cs with
  | none => none
  | some rest => setRest verbose (rest.length + 1) 1 rest

-- ============================================== groups

/-- The flags that a group may set. -/
def flagNames : List Char := ['i', 'm', 's', 'U', 'u', 'R', 'x']

/-- The flags of a group, the last one first, with the minus sign between
those it sets and those it clears; the character behind them, which is a
colon or a closing parenthesis; and the text behind that. No flag stands
twice, and a minus sign at most once and not at the end. -/
def flags : (seen : List Char) → List Char → Option (List Char × Char × List Char)
  | _, [] => none
  | seen, c :: rest =>
    if c == ':' || c == ')' then
      if seen.head? == some '-' then none else some (seen, c, rest)
    else if c == '-' || c ∈ flagNames then
      if c ∈ seen then none else flags (c :: seen) rest
    else none

/-- Whether flags set or clear one of them. -/
def setting? (seen : List Char) (flag : Char) : Option Bool :=
  match seen.dropWhile (· != flag) with
  | [] => none
  | _ :: before => some (!before.contains '-')

/-- Characters of a group name; the first may not be a digit or a mark. -/
def isNameChar (first : Bool) (c : Char) : Bool :=
  c == '_' || ('a' ≤ c && c ≤ 'z') || ('A' ≤ c && c ≤ 'Z')
    || (128 ≤ c.toNat && !Text.isBlank c)
    || (!first && (Text.isDigit c || c == '.' || c == '[' || c == ']'))

/-- The name of a group, and the text behind it. -/
def groupName (cs : List Char) : Option (List Char × List Char) :=
  match Text.splitFirst (· == '>') cs with
  | none => none
  | some (name, rest) =>
    match name with
    | [] => none
    | c :: more =>
      if isNameChar true c && more.all (isNameChar false) then some (name, rest) else none

-- ============================================== repetitions

/-- A number of repetitions, blanks around it allowed. -/
def count (verbose : Bool) (cs : List Char) : Option Nat × List Char :=
  let cs := cs.dropWhile Text.isBlank
  let (ds, rest) := digits (cs.length + 1) cs
  ((Text.readDigits? ds).filter (· < UInt32.size), rest.dropWhile Text.isBlank)
where
  /-- Digits, with blanks between them skipped if they are of no account. -/
  digits : (fuel : Nat) → List Char → List Char × List Char
    | 0, cs => ([], cs)
    | fuel + 1, cs =>
      match cs with
      | [] => ([], [])
      | c :: rest =>
        if Text.isDigit c then
          let (ds, rest) := digits fuel (skipIf verbose rest)
          (c :: ds, rest)
        else ([], cs)

/-- The bounds of a repetition in braces, and the text behind them. -/
def bounds (verbose : Bool) (cs : List Char) : Option (Nat × Option Nat × List Char) :=
  let (low, rest) := count verbose (skipIf verbose cs)
  match low, rest with
  | some n, '\x7d' :: rest => some (n, some n, rest)
  | some n, ',' :: rest =>
    match skipIf verbose rest with
    | '\x7d' :: rest => some (n, none, rest)
    | rest =>
      match count verbose rest with
      | (some m, '\x7d' :: rest) => if n ≤ m then some (n, some m, rest) else none
      | _ => none
  | _, _ => none

/-- The text behind the mark that makes a repetition as short as
possible. -/
def afterLazy : List Char → List Char
  | '?' :: rest => rest
  | rest => rest

/-- The states of an item that is repeated. -/
def repeatedStates (states low : Nat) (high : Option Nat) : Nat :=
  match high with
  | none => states * (max low 1) + 2
  | some n => states * n + 2 * (n - low)

-- ============================================== the whole

/-- A group that is open: the states of what it holds, those of its last
part if that can be repeated, whether blanks are of no account, and
whether it is about characters and not about bytes. -/
structure Frame where
  states : Nat := 0
  last : Option Nat := none
  verbose : Bool := false
  characters : Bool := true

/-- An empty group inside another. -/
def Frame.inner (f : Frame) : Frame := { verbose := f.verbose, characters := f.characters }

/-- Adds a part. -/
def Frame.add (f : Frame) (states : Nat) : Frame :=
  { f with states := f.states + f.last.getD 0, last := some states }

/-- Adds something that cannot be repeated. -/
def Frame.addFixed (f : Frame) : Frame :=
  { f with states := f.states + f.last.getD 0, last := none }

/-- The states of all parts. -/
def Frame.total (f : Frame) : Nat := f.states + f.last.getD 0

/-- Whether an escape, given without its backslash, stands for whole
characters even in a group that is about bytes. -/
def escapeIsWhole (c : Char) (cs : List Char) : Bool :=
  match cs with
  | 'x' :: '\x7b' :: _ => true
  | 'x' :: _ => c.toNat < 128
  | _ => true

/-- Whether a set of that name holds no byte beyond ASCII in such a group. -/
def setIsWhole (cs : List Char) : Bool := cs.head?.any (· ∈ ['d', 's', 'w'])

/-- Whether the text of a set in brackets holds no byte beyond ASCII in
such a group. -/
def bracketIsWhole : List Char → Bool
  | '^' :: _ => false
  | cs => plain cs
where
  /-- The members of the set. -/
  plain : List Char → Bool
    | [] => true
    | '\\' :: c :: rest => c ∉ ['D', 'S', 'W', 'p', 'P'] && plain rest
    | c :: rest => c.toNat < 128 && plain rest

/-- The states an automaton may have. -/
def stateLimit : Nat := 327680

/-- How far a pattern has been read: the names of groups so far, the
innermost group, those around it, and the text that is left. -/
structure Reading where
  names : List (List Char) := []
  top : Frame := {}
  outer : List Frame := []
  rest : List Char

namespace Reading

/-- Reads on behind a part. -/
def add (r : Reading) (states : Nat) (rest : List Char) : Reading :=
  { r with top := r.top.add states, rest }

/-- Opens a group. -/
def enter (r : Reading) (inner : Frame) (rest : List Char) : Reading :=
  { r with top := inner, outer := r.top :: r.outer, rest }

/-- Closes the innermost group, if one is open. -/
def leave (r : Reading) (rest : List Char) : Option Reading :=
  match r.outer with
  | [] => none
  | f :: outer => some { r with top := f.add (r.top.total + 2), outer, rest }

/-- Opens a group with a name that no other group has. -/
def enterNamed (r : Reading) (cs : List Char) : Option Reading :=
  match groupName cs with
  | none => none
  | some (name, rest) =>
    if name ∈ r.names then none
    else some { r.enter r.top.inner rest with names := name :: r.names }

/-- Opens a group with flags, or sets flags from here on. -/
def withFlags (r : Reading) (cs : List Char) : Option Reading :=
  match flags [] cs with
  | none => none
  | some (seen, close, rest) =>
    let verbose := (setting? seen 'x').getD r.top.verbose
    let characters := (setting? seen 'u').getD r.top.characters
    if close == ':' then some (r.enter { verbose, characters } rest)
    else if seen.isEmpty then none
    else some { r with top := { r.top.addFixed with verbose, characters }, rest }

/-- Reads what follows an opening parenthesis. -/
def group (r : Reading) (cs : List Char) : Option Reading :=
  match cs with
  | '?' :: 'P' :: '<' :: rest => r.enterNamed rest
  | '?' :: '<' :: '=' :: _ => none
  | '?' :: '<' :: '!' :: _ => none
  | '?' :: '<' :: rest => r.enterNamed rest
  | '?' :: rest => r.withFlags rest
  | rest => some (r.enter r.top.inner rest)

/-- Repeats the last part. -/
def repeatLast (r : Reading) (low : Nat) (high : Option Nat) (rest : List Char) :
    Option Reading :=
  match r.top.last with
  | none => none
  | some n =>
    some { r with
      top := { r.top with last := some (repeatedStates n low high) }
      rest := afterLazy rest }

/-- Reads a set whose opening bracket has been read. -/
def bracket (r : Reading) (cs : List Char) : Option Reading :=
  match set? r.top.verbose cs with
  | none => none
  | some rest =>
    if r.top.characters || bracketIsWhole (cs.take (cs.length - rest.length)) then
      some (r.add 4 rest)
    else none

/-- Reads an escape whose backslash has been read. -/
def escaped (r : Reading) (cs : List Char) : Option Reading :=
  match escape r.top.verbose cs with
  | none => none
  | some (.char c, rest) =>
    if r.top.characters || escapeIsWhole c cs then some (r.add c.utf8Size rest) else none
  | some (.set n, rest) =>
    if r.top.characters || setIsWhole cs then some (r.add n rest) else none
  | some (.place, rest) => some (r.add 1 rest)

/-- Reads one item, which begins with `c`. -/
def item (r : Reading) (c : Char) (rest : List Char) : Option Reading :=
  if c == '(' then r.group (skipIf r.top.verbose rest)
  else if c == ')' then r.leave rest
  else if c == '|' then
    some { r with top := { r.top.addFixed with states := r.top.total + 1 }, rest }
  else if c == '[' then r.bracket rest
  else if c == '?' then r.repeatLast 0 (some 1) rest
  else if c == '*' then r.repeatLast 0 none rest
  else if c == '+' then r.repeatLast 1 none rest
  else if c == '\x7b' then
    match bounds r.top.verbose rest with
    | none => none
    | some (low, high, rest) => r.repeatLast low high (skipIf r.top.verbose rest)
  else if c == '\\' then r.escaped rest
  else if c == '.' then if r.top.characters then some (r.add 10 rest) else none
  else some (r.add c.utf8Size rest)

/-- Whether every group is closed and the automaton small enough. -/
def isComplete (r : Reading) : Bool := r.outer.isEmpty && r.top.total ≤ stateLimit

/-- Reads to the end, by `fuel` items at most. -/
def finish : (fuel : Nat) → Reading → Bool
  | 0, _ => false
  | fuel + 1, r =>
    match skipIf r.top.verbose r.rest with
    | [] => r.isComplete
    | c :: rest =>
      match r.item c rest with
      | none => false
      | some r => finish fuel r

end Reading

/-- Whether a text is a pattern. Every item takes a character at least. -/
def isPattern (s : String) : Bool := Reading.finish (s.length + 1) { rest := s.toList }

/-- The patterns that can be read. What is wrong with any other text is not
said. -/
@[reducible] def patterns : Patterns where
  error? s := if isPattern s then none else some "regex parse error"

end Sdwan.Stock
