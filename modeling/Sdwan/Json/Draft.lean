/-
A JSON document as a reader meets it: the tree as far as the text is
well formed, with a mark at the place where it stops being so. A reader
that asks for members and items in order then finds a wrong type and a
broken text in the order in which they stand, as if it had read the text
character by character.

A document is read from its bytes, each of them taken as the character of
its number: all that JSON gives a meaning to is ASCII. Only the bytes of a
string have to be UTF-8, and only where somebody reads it.

`Draft.ofJson` embeds a complete value, `Draft.ofBytes` reads bytes and
`Draft.ofText` a text, and `Draft.toJson?` gives back the value of a draft
without faults.
-/
import Sdwan.Json.Basic
import Sdwan.Text.Utf8

namespace Sdwan.Json

/-- A JSON document that may be broken somewhere. -/
inductive Draft where
  | null
  | bool (value : Bool)
  | number (value : Number)
  | string (value : String)
  /-- The items that could be read; `closed` unless the text breaks off
  or goes wrong behind them. -/
  | array (items : List Draft) (closed : Bool)
  /-- The members that could be read. A name that is lexically sound but
  holds half a surrogate pair, or bytes of no text, is `none`. -/
  | object (members : List (Option String × Draft)) (closed : Bool)
  /-- A number too large for a double; it can be skipped but not read. -/
  | hugeNumber
  /-- A string with half a surrogate pair or with bytes of no text; it can
  be skipped but not read. -/
  | brokenString
  /-- An array or object nested too deeply to be read; `sound` tells
  whether it can be skipped. -/
  | tooDeep (sound : Bool)
  /-- No JSON value begins here. -/
  | fault
deriving Repr, Inhabited

namespace Draft

/-- The most arrays and objects that may be open at a time. -/
def maxDepth : Nat := 127

-- ============================================== complete values

mutual

/-- A complete value as a draft. -/
def ofJson : Json → Draft
  | .null => .null
  | .bool b => .bool b
  | .number n => .number n
  | .string s => .string s
  | .array xs => .array (ofItems xs) true
  | .object ms => .object (ofMembers ms) true

/-- The items of a complete array. -/
def ofItems : List Json → List Draft
  | [] => []
  | x :: xs => ofJson x :: ofItems xs

/-- The members of a complete object. -/
def ofMembers : List (String × Json) → List (Option String × Draft)
  | [] => []
  | (k, v) :: ms => (some k, ofJson v) :: ofMembers ms

end

mutual

/-- The value of a draft that has no fault; of members with one name the
last gives the value and the first the place. -/
def toJson? : Draft → Option Json
  | .null => some .null
  | .bool b => some (.bool b)
  | .number n => some (.number n)
  | .string s => some (.string s)
  | .array xs true => (toItems? xs).map .array
  | .object ms true => (toMembers? ms []).map .object
  | _ => none

/-- The values of the items, if none has a fault. -/
def toItems? : List Draft → Option (List Json)
  | [] => some []
  | x :: xs => do
    let v ← toJson? x
    let vs ← toItems? xs
    pure (v :: vs)

/-- The members read into those seen before. -/
def toMembers? : List (Option String × Draft) → List (String × Json) →
    Option (List (String × Json))
  | [], seen => some seen
  | (none, _) :: _, _ => none
  | (some k, d) :: ms, seen => do
    let v ← toJson? d
    toMembers? ms (insertMember k v seen)

end

-- ============================================== skipping and depth

mutual

/-- Whether a value that nobody asks for can be passed over. -/
def skippable : Draft → Bool
  | .array xs closed => closed && allSkippable xs
  | .object ms closed => closed && allMembersSkippable ms
  | .tooDeep sound => sound
  | .fault => false
  | _ => true

/-- `skippable` for every item. -/
def allSkippable : List Draft → Bool
  | [] => true
  | x :: xs => skippable x && allSkippable xs

/-- `skippable` for every member. -/
def allMembersSkippable : List (Option String × Draft) → Bool
  | [] => true
  | (_, d) :: ms => skippable d && allMembersSkippable ms

end

mutual

/-- Closes the arrays and objects that more than `depth` others enclose. -/
def limit (depth : Nat) : Draft → Draft
  | .array xs closed =>
    match depth with
    | 0 => .tooDeep (closed && allSkippable xs)
    | depth + 1 => .array (limitItems depth xs) closed
  | .object ms closed =>
    match depth with
    | 0 => .tooDeep (closed && allMembersSkippable ms)
    | depth + 1 => .object (limitMembers depth ms) closed
  | d => d

/-- `limit` for every item. -/
def limitItems (depth : Nat) : List Draft → List Draft
  | [] => []
  | x :: xs => limit depth x :: limitItems depth xs

/-- `limit` for every member. -/
def limitMembers (depth : Nat) : List (Option String × Draft) → List (Option String × Draft)
  | [] => []
  | (k, d) :: ms => (k, limit depth d) :: limitMembers depth ms

end

-- ============================================== tokens

/-- JSON's four blanks. -/
def isSpace (c : Char) : Bool := c == ' ' || c == '\n' || c == '\t' || c == '\r'

/-- The text from the first character that is not a blank. -/
def skipSpace (cs : List Char) : List Char := cs.dropWhile isSpace

/-- The sixteen bits of four hexadecimal digits. -/
def hexUnit? : List Char → Option (Nat × List Char)
  | a :: b :: c :: d :: rest =>
    if [a, b, c, d].all Text.isHexDigit then some (Text.valueInBase 16 [a, b, c, d], rest)
    else none
  | _ => none

/-- The character of an escape of one letter. -/
def escapedChar? (c : Char) : Option Char :=
  if c == '"' || c == '\\' || c == '/' then some c
  else if c == 'b' then some '\x08'
  else if c == 'f' then some '\x0c'
  else if c == 'n' then some '\n'
  else if c == 'r' then some '\r'
  else if c == 't' then some '\t'
  else none

/-- The bytes of a string up to its closing mark and the text behind it;
the bytes are `none` when a surrogate stands alone. A control character
and an unknown escape end the attempt. -/
def stringBody : (fuel : Nat) → List Char → Option (Option (List UInt8) × List Char)
  | 0, _ => none
  | _, [] => none
  | fuel + 1, c :: cs =>
    if c == '"' then some (some [], cs)
    else if c == '\\' then
      match cs with
      | 'u' :: rest =>
        match hexUnit? rest with
        | none => none
        | some (u, rest) =>
          if 0xD800 ≤ u ∧ u < 0xDC00 then
            match rest with
            | '\\' :: 'u' :: more =>
              match hexUnit? more with
              | none => none
              | some (v, after) =>
                if 0xDC00 ≤ v ∧ v < 0xE000 then
                  let full := Char.ofNat (0x10000 + (u - 0xD800) * 0x400 + (v - 0xDC00))
                  (stringBody fuel after).map fun (s, r) =>
                    (s.map (String.utf8EncodeChar full ++ ·), r)
                else (stringBody fuel rest).map fun (_, r) => (none, r)
            | _ => (stringBody fuel rest).map fun (_, r) => (none, r)
          else if 0xDC00 ≤ u ∧ u < 0xE000 then
            (stringBody fuel rest).map fun (_, r) => (none, r)
          else
            (stringBody fuel rest).map fun (s, r) =>
              (s.map (String.utf8EncodeChar (Char.ofNat u) ++ ·), r)
      | e :: rest =>
        match escapedChar? e with
        | none => none
        | some x =>
          (stringBody fuel rest).map fun (s, r) => (s.map (String.utf8EncodeChar x ++ ·), r)
      | [] => none
    else if c.toNat < 32 then none
    else (stringBody fuel cs).map fun (s, r) => (s.map (UInt8.ofNat c.toNat :: ·), r)

/-- The string that begins behind an opening mark. Its bytes have to be
those of a text. -/
def string? (cs : List Char) : Option (Option String × List Char) :=
  (stringBody (cs.length + 1) cs).map fun (s, r) =>
    ((s.bind Text.decodeStrict?).map String.ofList, r)

/-- Takes digits into the significand as long as it fits 64 bits; gives
the significand, how many digits it took, and the rest. -/
def significand (start : Nat) : List Char → Nat × Nat × List Char
  | [] => (start, 0, [])
  | c :: cs =>
    if Text.isDigit c && 10 * start + Text.digitValue c < UInt64.size then
      let (n, k, rest) := significand (10 * start + Text.digitValue c) cs
      (n, k + 1, rest)
    else (start, 0, c :: cs)

/-- A double from its sign and decimal parts. -/
def floatDraft (negative : Bool) (sig : Nat) (exponent : Int) : Draft :=
  match Binary64.ofDecimal sig exponent with
  | none => .hugeNumber
  | some mag => .number (.float (Binary64.withSign negative mag))

/-- The number that ends with an exponent, whose letter has been read. An
exponent beyond 32 bits leaves zero, or a number that is too large. -/
def withExponent (negative : Bool) (sig : Nat) (start : Int) (cs : List Char) :
    Option (Draft × List Char) :=
  let (down, cs) := match cs with
    | '+' :: r => (false, r)
    | '-' :: r => (true, r)
    | r => (false, r)
  let ds := cs.takeWhile Text.isDigit
  let rest := cs.dropWhile Text.isDigit
  if ds.isEmpty then none
  else
    let e := Text.digitsValue ds
    if e < Nat.pow 2 31 then
      some (floatDraft negative sig (if down then start - e else start + e), rest)
    else if sig != 0 && !down then some (.hugeNumber, rest)
    else some (.number (.float (Binary64.withSign negative 0)), rest)

/-- The number that goes on with an exponent or ends here. -/
def exponentPart (negative : Bool) (sig : Nat) (start : Int) :
    List Char → Option (Draft × List Char)
  | c :: cs =>
    if c == 'e' || c == 'E' then withExponent negative sig start cs
    else some (floatDraft negative sig start, c :: cs)
  | [] => some (floatDraft negative sig start, [])

/-- The number that goes on behind a decimal point. Digits beyond those
that fit the significand are dropped. -/
def fractionPart (negative : Bool) (sig : Nat) (start : Int) (cs : List Char) :
    Option (Draft × List Char) :=
  let (n, k, rest) := significand sig cs
  let more := rest.takeWhile Text.isDigit
  if k == 0 && more.isEmpty then none
  else exponentPart negative n (start - k) (rest.dropWhile Text.isDigit)

/-- The integer with this sign, or the double for one that does not fit.
Minus zero is a double. -/
def integerDraft (negative : Bool) (sig : Nat) : Draft :=
  if !negative then .number (.int sig)
  else if sig == 0 || Nat.pow 2 63 < sig then floatDraft true sig 0
  else .number (.int (-(sig : Int)))

/-- The number whose sign has been read. -/
def numberBody (negative : Bool) (cs : List Char) : Option (Draft × List Char) :=
  match cs with
  | [] => none
  | c :: _ =>
    if !Text.isDigit c then none
    else
      let (n, k, rest) := if c == '0' then (0, 1, cs.drop 1) else significand 0 cs
      match rest with
      | [] => some (integerDraft negative n, [])
      | d :: after =>
        if Text.isDigit d then
          if c == '0' && k == 1 then none
          else
            let extra := rest.takeWhile Text.isDigit
            match rest.dropWhile Text.isDigit with
            | '.' :: after => fractionPart negative n extra.length after
            | after => exponentPart negative n extra.length after
        else if d == '.' then fractionPart negative n 0 after
        else if d == 'e' || d == 'E' then withExponent negative n 0 after
        else some (integerDraft negative n, rest)

/-- A number. -/
def number? : List Char → Option (Draft × List Char)
  | '-' :: cs => numberBody true cs
  | cs => numberBody false cs

-- ============================================== documents

mutual

/-- The value at the head of a text, blanks before it included, and the
text behind it. `none` in place of the text means that it cannot be told
where the value ends. -/
def value (fuel : Nat) (cs : List Char) : Draft × Option (List Char) :=
  match fuel with
  | 0 => (.fault, none)
  | fuel + 1 =>
    match skipSpace cs with
    | [] => (.fault, none)
    | '"' :: rest =>
      match string? rest with
      | none => (.fault, none)
      | some (none, rest) => (.brokenString, some rest)
      | some (some s, rest) => (.string s, some rest)
    | '[' :: rest =>
      match skipSpace rest with
      | ']' :: rest => (.array [] true, some rest)
      | rest =>
        let (xs, after) := items fuel rest
        (.array xs after.isSome, after)
    | '\x7b' :: rest =>
      match skipSpace rest with
      | '\x7d' :: rest => (.object [] true, some rest)
      | rest =>
        let (ms, after) := members fuel rest
        (.object ms after.isSome, after)
    | 't' :: 'r' :: 'u' :: 'e' :: rest => (.bool true, some rest)
    | 'f' :: 'a' :: 'l' :: 's' :: 'e' :: rest => (.bool false, some rest)
    | 'n' :: 'u' :: 'l' :: 'l' :: rest => (.null, some rest)
    | rest =>
      match number? rest with
      | none => (.fault, none)
      | some (d, rest) => (d, some rest)

/-- The items up to the closing bracket, and the text behind it. -/
def items (fuel : Nat) (cs : List Char) : List Draft × Option (List Char) :=
  match fuel with
  | 0 => ([], none)
  | fuel + 1 =>
    match value fuel cs with
    | (x, none) => ([x], none)
    | (x, some rest) =>
      match skipSpace rest with
      | ']' :: rest => ([x], some rest)
      | ',' :: rest =>
        let (xs, after) := items fuel rest
        (x :: xs, after)
      | _ => ([x], none)

/-- The members up to the closing brace, and the text behind it. -/
def members (fuel : Nat) (cs : List Char) :
    List (Option String × Draft) × Option (List Char) :=
  match fuel with
  | 0 => ([], none)
  | fuel + 1 =>
    match skipSpace cs with
    | '"' :: rest =>
      match string? rest with
      | none => ([], none)
      | some (k, rest) =>
        match skipSpace rest with
        | ':' :: rest =>
          match value fuel rest with
          | (v, none) => ([(k, v)], none)
          | (v, some rest) =>
            match skipSpace rest with
            | '\x7d' :: rest => ([(k, v)], some rest)
            | ',' :: rest =>
              let (ms, after) := members fuel rest
              ((k, v) :: ms, after)
            | _ => ([(k, v)], none)
        | _ => ([(k, .fault)], none)
    | _ => ([], none)

end

/-- Bytes read as a document: the draft of its value, and whether only
blanks follow it. -/
def ofBytes (bytes : List UInt8) : Draft × Bool :=
  let cs := Text.octets bytes
  let (d, rest) := value (2 * cs.length + 2) cs
  (d.limit maxDepth, match rest with
    | none => false
    | some rest => (skipSpace rest).isEmpty)

/-- A text read as a document. -/
def ofText (s : String) : Draft × Bool := ofBytes (Text.bytesOf s)

end Draft

/-- The value of a text that is JSON from end to end. -/
def parse? (s : String) : Option Json :=
  match Draft.ofText s with
  | (d, true) => d.toJson?
  | (_, false) => none

end Sdwan.Json
