import Turnstile.Text.Blank
import Turnstile.Decimal.Literal
import Turnstile.Toml.Basic

/-!
# Reading configuration files

The file is TOML: headers in brackets, keys with values, comments behind `#`. A value is a text in
one of four kinds of quotes, a number, a truth value, a date, an array or a table in braces.
-/

namespace Turnstile.Toml

/-- What is read, and the text behind it. -/
abbrev Step? (α : Type) := Option (α × List Char)

/-! ## Between the values -/

/-- The text behind blanks on the same line. -/
def skipBlank (cs : List Char) : List Char := cs.dropWhile fun c => c = ' ' || c = '\t'

/-- A character that may stand in a comment. -/
def inComment (c : Char) : Bool := c = '\t' || (0x20 ≤ c.toNat && c.toNat ≠ 0x7F)

/-- The text behind a comment, if one stands at the front. -/
def skipComment : List Char → List Char
  | '#' :: r => r.dropWhile inComment
  | cs => cs

/-- The text behind the end of a line. -/
def endOfLine? : List Char → Option (List Char)
  | [] => some []
  | '\n' :: r => some r
  | '\r' :: '\n' :: r => some r
  | _ => none

/-- The text behind blanks, comments and ends of lines. -/
def skipLines : Nat → List Char → List Char
  | 0, cs => cs
  | fuel + 1, cs => match skipComment (skipBlank cs) with
    | '\n' :: r => skipLines fuel r
    | '\r' :: '\n' :: r => skipLines fuel r
    | r => r

/-! ## Texts -/

/-- The character of a code point in hexadecimal digits. -/
def codePoint? (count : Nat) (cs : List Char) : Step? Char :=
  let ds := cs.take count
  if ds.length < count then none
  else match Text.readHex? ds with
    | some n =>
      if n < 0xD800 || (0xDFFF < n && n < 0x110000) then some (Char.ofNat n, cs.drop count)
      else none
    | none => none

/-- The character behind a backslash. -/
def escaped? : List Char → Step? Char
  | 'b' :: r => some ('\x08', r)
  | 't' :: r => some ('\t', r)
  | 'n' :: r => some ('\n', r)
  | 'f' :: r => some ('\x0c', r)
  | 'r' :: r => some ('\r', r)
  | '"' :: r => some ('"', r)
  | '\\' :: r => some ('\\', r)
  | 'u' :: r => codePoint? 4 r
  | 'U' :: r => codePoint? 8 r
  | _ => none

/-- A character that may stand in a text on one line. -/
def inText (c : Char) : Bool := c = '\t' || (0x20 ≤ c.toNat && c.toNat ≠ 0x7F)

/-- A text in double quotes on one line, behind its opening quote. -/
def basic? : Nat → List Char → Step? (List Char)
  | 0, _ => none
  | _ + 1, [] => none
  | _ + 1, '"' :: r => some ([], r)
  | fuel + 1, '\\' :: r => match escaped? r with
    | none => none
    | some (c, r) => (basic? fuel r).map fun p => (c :: p.1, p.2)
  | fuel + 1, c :: r =>
    if inText c then (basic? fuel r).map fun p => (c :: p.1, p.2) else none

/-- A text in single quotes on one line, behind its opening quote. -/
def literal? : List Char → Step? (List Char)
  | [] => none
  | c :: r =>
    if c = '\x27' then some ([], r)
    else if inText c then (literal? r).map fun p => (c :: p.1, p.2) else none

/-- The end of a text over several lines: three quotes, and up to two more that belong to it. -/
def closing? (q : Char) (cs : List Char) : Step? (List Char) :=
  let quotes := (cs.takeWhile (· = q)).length
  if quotes < 3 then none
  else if quotes ≤ 5 then some (List.replicate (quotes - 3) q, cs.drop quotes)
  else none

/-- The text behind a backslash at the end of a line, the blanks and lines after it dropped. -/
def continued? (cs : List Char) : Option (List Char) :=
  match skipBlank cs with
  | '\n' :: r => some (r.dropWhile fun c => c = ' ' || c = '\t' || c = '\n' || c = '\r')
  | '\r' :: '\n' :: r => some (r.dropWhile fun c => c = ' ' || c = '\t' || c = '\n' || c = '\r')
  | _ => none

/-- A text in three double quotes, behind them. -/
def longBasic? : Nat → List Char → Step? (List Char)
  | 0, _ => none
  | _ + 1, [] => none
  | fuel + 1, '"' :: r => match closing? '"' ('"' :: r) with
    | some e => some e
    | none => match r with
      | '"' :: '"' :: _ => none
      | _ => (longBasic? fuel r).map fun p => ('"' :: p.1, p.2)
  | fuel + 1, '\\' :: r => match continued? r with
    | some r => longBasic? fuel r
    | none => match escaped? r with
      | none => none
      | some (c, r) => (longBasic? fuel r).map fun p => (c :: p.1, p.2)
  | fuel + 1, '\r' :: '\n' :: r => (longBasic? fuel r).map fun p => ('\n' :: p.1, p.2)
  | fuel + 1, c :: r =>
    if inText c || c = '\n' then (longBasic? fuel r).map fun p => (c :: p.1, p.2) else none

/-- A text in three single quotes, behind them. -/
def longLiteral? : Nat → List Char → Step? (List Char)
  | 0, _ => none
  | _ + 1, [] => none
  | fuel + 1, '\r' :: '\n' :: r => (longLiteral? fuel r).map fun p => ('\n' :: p.1, p.2)
  | fuel + 1, c :: r =>
    if c = '\x27' then match closing? '\x27' (c :: r) with
      | some e => some e
      | none => match r.take 2 with
        | ['\x27', '\x27'] => none
        | _ => (longLiteral? fuel r).map fun p => (c :: p.1, p.2)
    else if inText c || c = '\n' then (longLiteral? fuel r).map fun p => (c :: p.1, p.2)
    else none

/-- The text behind the end of a line at the front, if there is one. -/
def firstLine : List Char → List Char
  | '\n' :: r => r
  | '\r' :: '\n' :: r => r
  | r => r

/-- A text in any kind of quotes. -/
def text? (cs : List Char) : Step? (List Char) :=
  match cs with
  | '"' :: '"' :: '"' :: r => longBasic? (r.length + 1) (firstLine r)
  | '"' :: r => basic? (r.length + 1) r
  | '\x27' :: '\x27' :: '\x27' :: r => longLiteral? (r.length + 1) (firstLine r)
  | '\x27' :: r => literal? r
  | _ => none

/-! ## Keys -/

/-- A character of a key without quotes. -/
def inBareKey (c : Char) : Bool := c.isAlphanum || c = '_' || c = '-'

/-- One part of a key. -/
def keyPart? (cs : List Char) : Step? String :=
  match cs with
  | '"' :: r => (basic? (r.length + 1) r).map fun p => (String.ofList p.1, p.2)
  | '\x27' :: r => (literal? r).map fun p => (String.ofList p.1, p.2)
  | _ => match cs.takeWhile inBareKey with
    | [] => none
    | k => some (String.ofList k, cs.dropWhile inBareKey)

/-- A key of parts joined by points: the parts before the last, and the last. -/
def key? : Nat → List Char → Step? (List String × String)
  | 0, _ => none
  | fuel + 1, cs => match keyPart? cs with
    | none => none
    | some (k, r) => match skipBlank r with
      | '.' :: r' => match key? fuel (skipBlank r') with
        | none => none
        | some ((path, last), rest) => some ((k :: path, last), rest)
      | r' => some (([], k), r')

/-! ## Numbers, truth values and dates -/

/-- Digits of a base with single underscores between them, underscores removed. -/
def digits? (isDigit : Char → Bool) (cs : List Char) : Option (List Char) :=
  let groups := Text.pieces '_' cs
  if groups.all fun g => !g.isEmpty && g.all isDigit then some groups.flatten else none

/-- The number that digits of a base denote. -/
def inBase (base : Nat) (ds : List Char) : Nat :=
  ds.foldl (fun n c => base * n + (Text.hexVal? c).getD 0) 0

/-- An integer of the signed range. -/
def signed? (n : Int) : Option Node := if Word.InRange n then some (.int n) else none

/-- Decimal digits without a zero in front. -/
def whole? (cs : List Char) : Option (List Char) :=
  match digits? Char.isDigit cs with
  | some ['0'] => some ['0']
  | some ('0' :: _) => none
  | ds => ds

/-- The sign at the front, and the rest. -/
def sign (cs : List Char) : Bool × List Char :=
  match cs with
  | '-' :: r => (true, r)
  | '+' :: r => (false, r)
  | r => (false, r)

/-- A number with a point or an exponent. One above every double is refused; one below them all is
the infinite one. -/
def float? (cs : List Char) : Option Node :=
  let (negative, body) := sign cs
  let (mantissa, exponent) : List Char × Option (List Char) :=
    match body.span fun c => c ≠ 'e' && c ≠ 'E' with
    | (m, []) => (m, none)
    | (m, _ :: e) => (m, some e)
  let (whole, fraction) : List Char × Option (List Char) :=
    match Text.cutAt '.' mantissa with
    | some (w, f) => (w, some f)
    | none => (mantissa, none)
  let fractionDigits : Option (List Char) := match fraction with
    | none => some []
    | some f => (digits? Char.isDigit f).map ('.' :: ·)
  let exponentDigits : Option (List Char) := match exponent with
    | none => some []
    | some e =>
      let (negative, ds) := sign e
      (digits? Char.isDigit ds).map fun ds => 'e' :: (if negative then '-' :: ds else ds)
  match whole? whole, fractionDigits, exponentDigits with
  | some w, some f, some e => match Decimal.Literal.read? (w ++ f ++ e) with
    | some x =>
      if negative then some (.float (-x))
      else if Decimal.Binary64.isFinite x then some (.float x)
      else none
    | none => none
  | _, _, _ => none

/-- A number. -/
def number? (cs : List Char) : Option Node :=
  match cs with
  | '0' :: 'x' :: r =>
    ((digits? (fun c => (Text.hexVal? c).isSome) r).map fun ds => (inBase 16 ds : Int)).bind signed?
  | '0' :: 'o' :: r =>
    ((digits? (fun c => '0' ≤ c && c ≤ '7') r).map fun ds => (inBase 8 ds : Int)).bind signed?
  | '0' :: 'b' :: r =>
    ((digits? (fun c => c = '0' || c = '1') r).map fun ds => (inBase 2 ds : Int)).bind signed?
  | _ =>
    let (negative, body) := sign cs
    if body = "inf".toList || body = "nan".toList then
      (Decimal.Literal.read? cs).map .float
    else match whole? body with
      | some ds =>
        let n : Int := Decimal.digitsVal ds
        signed? (if negative then -n else n)
      | none => float? cs

/-- A number of `count` digits at the front. -/
def fixed? (count : Nat) (cs : List Char) : Step? Nat :=
  let ds := cs.take count
  if ds.length = count && ds.all Char.isDigit then some (Decimal.digitsVal ds, cs.drop count)
  else none

/-- The days of a month. -/
def monthLength (year month : Nat) : Nat :=
  if month = 2 then
    if year % 4 = 0 && (year % 100 ≠ 0 || year % 400 = 0) then 29 else 28
  else if month = 4 || month = 6 || month = 9 || month = 11 then 30
  else 31

/-- The text behind a day of the calendar. -/
def day? (cs : List Char) : Option (List Char) :=
  match fixed? 4 cs with
  | some (year, '-' :: r) => match fixed? 2 r with
    | some (month, '-' :: r) => match fixed? 2 r with
      | some (day, r) =>
        if 1 ≤ month && month ≤ 12 && 1 ≤ day && day ≤ monthLength year month then some r
        else none
      | none => none
    | _ => none
  | _ => none

/-- The text behind a time of the day. -/
def clock? (cs : List Char) : Option (List Char) :=
  match fixed? 2 cs with
  | some (hour, ':' :: r) => match fixed? 2 r with
    | some (minute, ':' :: r) => match fixed? 2 r with
      | some (second, r) =>
        if hour ≤ 23 && minute ≤ 59 && second ≤ 60 then match r with
          | '.' :: r' => match r'.takeWhile Char.isDigit with
            | [] => none
            | _ => some (r'.dropWhile Char.isDigit)
          | r => some r
        else none
      | none => none
    | _ => none
  | _ => none

/-- The text behind the distance from universal time, if one is stated. -/
def offset? (cs : List Char) : Option (List Char) :=
  let distance (r : List Char) : Option (List Char) := match fixed? 2 r with
    | some (hour, ':' :: r) => match fixed? 2 r with
      | some (minute, r) => if hour ≤ 23 && minute ≤ 59 then some r else none
      | none => none
    | _ => none
  match cs with
  | 'Z' :: r => some r
  | 'z' :: r => some r
  | '+' :: r => distance r
  | '-' :: r => distance r
  | r => some r

/-- The text behind a date, a time, or both. -/
def date? (cs : List Char) : Option (List Char) :=
  match day? cs with
  | some (c :: r) =>
    if c = 'T' || c = 't' || c = ' ' then match clock? r with
      | some r => offset? r
      | none => if c = ' ' then some (c :: r) else none
    else some (c :: r)
  | some [] => some []
  | none => clock? cs

/-- A character of a value without quotes. -/
def inWord (c : Char) : Bool := c.isAlphanum || c = '_' || c = '+' || c = '-' || c = '.' || c = ':'

/-- A value that is a single word. -/
def word? (cs : List Char) : Step? Node :=
  match date? cs with
  | some r => some (.date (String.ofList (cs.take (cs.length - r.length))), r)
  | none =>
    let w := cs.takeWhile inWord
    let r := cs.dropWhile inWord
    if w = "true".toList then some (.bool true, r)
    else if w = "false".toList then some (.bool false, r)
    else (number? w).map fun n => (n, r)

/-! ## Values -/

mutual

/-- A value. -/
def value? : Nat → List Char → Step? Node
  | 0, _ => none
  | fuel + 1, cs => match cs with
    | '[' :: r => (items? fuel r).map fun p => (.array p.1, p.2)
    | '\x7b' :: r => match skipBlank r with
      | '\x7d' :: r => some (.table .inPlace [], r)
      | r => (members? fuel [] r).map fun p => (.table .inPlace p.1, p.2)
    | '"' :: _ => (text? cs).map fun p => (.text (String.ofList p.1), p.2)
    | '\x27' :: _ => (text? cs).map fun p => (.text (String.ofList p.1), p.2)
    | _ => word? cs

/-- The items of an array up to its closing bracket, perhaps over several lines. -/
def items? : Nat → List Char → Step? (List Node)
  | 0, _ => none
  | fuel + 1, cs => match skipLines cs.length cs with
    | ']' :: r => some ([], r)
    | cs => match value? fuel cs with
      | none => none
      | some (v, r) => match skipLines r.length r with
        | ']' :: r => some ([v], r)
        | ',' :: r => (items? fuel r).map fun p => (v :: p.1, p.2)
        | _ => none

/-- The members of a table in braces, of which at least one has to come. -/
def members? : Nat → Entries → List Char → Step? Entries
  | 0, _, _ => none
  | fuel + 1, es, cs => match key? cs.length cs with
    | some ((path, key), '=' :: r) => match value? fuel (skipBlank r) with
      | none => none
      | some (v, r) => match es.insert path key v .inPlace with
        | none => none
        | some es => match skipBlank r with
          | '\x7d' :: r => some (es, r)
          | ',' :: r => members? fuel es (skipBlank r)
          | _ => none
    | _ => none

end

/-! ## Files -/

/-- A file read so far: its tables, and the path of the one that is open. -/
structure File where
  root : Entries
  current : List String

/-- The text behind blanks, a comment and the end of the line. -/
def restOfLine? (cs : List Char) : Option (List Char) := endOfLine? (skipComment (skipBlank cs))

/-- Reads a header behind its brackets. -/
def header? (element : Bool) (f : File) (cs : List Char) : Step? File :=
  match key? cs.length (skipBlank cs) with
  | none => none
  | some ((path, key), r) =>
    let opened := if element then f.root.openElement path key else f.root.openTable path key
    match opened with
    | none => none
    | some root =>
      let rest := match element, r with
        | true, ']' :: ']' :: r => restOfLine? r
        | false, ']' :: r => restOfLine? r
        | _, _ => none
      rest.map fun r => (⟨root, path ++ [key]⟩, r)

/-- Reads one key with its value. -/
def entry? (f : File) (cs : List Char) : Step? File :=
  match key? cs.length cs with
  | some ((path, key), '=' :: r) => match value? (2 * r.length + 2) (skipBlank r) with
    | none => none
    | some (v, r) =>
      match Entries.change false (fun origin es => es.insert path key v origin)
        f.current .header f.root, restOfLine? r with
      | some root, some r => some ({ f with root := root }, r)
      | _, _ => none
  | _ => none

/-- Reads the lines of a file. -/
def lines? : Nat → File → List Char → Option Entries
  | 0, _, _ => none
  | fuel + 1, f, cs => match skipLines cs.length cs with
    | [] => some f.root
    | '[' :: '[' :: r => match header? true f r with
      | none => none
      | some (f, r) => lines? fuel f r
    | '[' :: r => match header? false f r with
      | none => none
      | some (f, r) => lines? fuel f r
    | r => match entry? f r with
      | none => none
      | some (f, r) => lines? fuel f r

/-- Reads a file. A byte order mark in front is passed over. -/
def read? (s : String) : Option Entries :=
  let cs := match s.toList with
    | '\ufeff' :: r => r
    | r => r
  lines? (cs.length + 1) ⟨[], []⟩ cs

end Turnstile.Toml
