import Toolbench.Rehearsal.Number
import Toolbench.Rehearsal.Quoting
import Toolbench.Text.Utf8

/-!
# Format strings

Texts with escapes behind backslashes and directives behind percent signs, and what
arguments make of them.  The program that writes formats and the command of the same
name in shells differ in the escapes that they know and in their complaints.
-/

namespace Toolbench

namespace Rehearsal

open Text (Bytes)

namespace Format

structure Writer where
  /-- What complaints start with. -/
  name : String
  /-- Whether it is a command of a shell. -/
  inShell : Bool := false

inductive Role where
  | format
  /-- An argument with escapes of its own. -/
  | argument
  /-- A word that is echoed. -/
  | echo
deriving DecidableEq

inductive Escape where
  | bytes (bytes : Bytes)
  /-- The end of all output. -/
  | stop
  | fault (complaint : String)

def letterCodes : List (Char × Nat) :=
  [('a', 7), ('b', 8), ('e', 27), ('f', 12), ('n', 10), ('r', 13), ('t', 9), ('v', 11),
    ('\\', 92)]

def isOctal (c : Char) : Bool :=
  '0' ≤ c && c ≤ '7'

def valueOf (base : Nat) (digits : List Char) : Nat :=
  digits.foldl (fun sum c => sum * base + (Text.Hex.value? c).getD 0) 0

/-- The longest run of digits at the start of a text, at most so many, and the rest. -/
def takeDigits (most : Nat) (isDigit : Char → Bool) (text : List Char) : List Char × List Char :=
  let digits := (text.take most).takeWhile isDigit
  (digits, text.drop digits.length)

def octalEscape (text : List Char) : Escape × List Char :=
  let (digits, rest) := takeDigits 3 isOctal text
  (.bytes [UInt8.ofNat (valueOf 8 digits)], rest)

def hexEscape (role : Role) (rest : List Char) : Escape × List Char :=
  let (digits, behind) := takeDigits 2 (fun c => (Text.Hex.value? c).isSome) rest
  if digits.isEmpty then
    if role = .echo then (.bytes (Text.Utf8.encode "\\x"), rest)
    else (.fault "missing hexadecimal number in escape", rest)
  else (.bytes [UInt8.ofNat (valueOf 16 digits)], behind)

/-- Hexadecimal digits in capital letters, at least so many. -/
def capitalHex (count value : Nat) : List Char :=
  let digits := (Nat.toDigits 16 value).map Char.toUpper
  List.replicate (count - digits.length) '0' ++ digits

/-- An escape of the code of a character, behind its letter; a plain terminal shows the code. -/
def codeEscape (letter : Char) (rest : List Char) : Escape × List Char :=
  let count := if letter = 'u' then 4 else 8
  let (digits, behind) := takeDigits count (fun c => (Text.Hex.value? c).isSome) rest
  let code := valueOf 16 digits
  if digits.length < count then (.fault "missing hexadecimal number in escape", rest)
  else if (code ≤ 0x9F && code ≠ 0x24 && code ≠ 0x40 && code ≠ 0x60) ||
      (0xD800 ≤ code && code ≤ 0xDFFF) then
    (.fault ("invalid universal character name \\" ++ String.ofList (letter :: digits)), rest)
  else if code < 0x80 then (.bytes [UInt8.ofNat code], behind)
  else if code < 0x10000 then
    (.bytes (Text.Utf8.encodeChars ('\\' :: 'u' :: capitalHex 4 code)), behind)
  else (.bytes (Text.Utf8.encodeChars ('\\' :: 'U' :: capitalHex 8 code)), behind)

/-- The escape behind a backslash, and what is behind it. -/
def escape (writer : Writer) (role : Role) (text : List Char) : Escape × List Char :=
  let isPlain := writer.inShell
  match text with
  | [] => (.bytes [0x5C], [])
  | c :: rest =>
      if isOctal c then
        let leading := c = '0' && role ≠ .format
        if leading && rest.head?.any isOctal then octalEscape rest else octalEscape text
      else if c = 'c' && !(isPlain && role = .format) then (.stop, rest)
      else if c = 'x' && !isPlain then hexEscape role rest
      else if (c = 'u' || c = 'U') && !isPlain && role ≠ .echo then codeEscape c rest
      else if c = '"' && !isPlain && role ≠ .echo then (.bytes [0x22], rest)
      else
        match letterCodes.lookup c with
        | some code => (.bytes [UInt8.ofNat code], rest)
        | none => (.bytes (Text.Utf8.encodeChars ['\\', c]), rest)

/-- The bytes of a text with escapes, and what stopped it. -/
def unescapeFrom (writer : Writer) (role : Role) : Nat → List Char → Bytes × Option Escape
  | 0, _ | _, [] => ([], none)
  | fuel + 1, c :: rest =>
      if c ≠ '\\' then
        let (bytes, halt) := unescapeFrom writer role fuel rest
        (Text.Utf8.encodeChar c ++ bytes, halt)
      else
        match escape writer role rest with
        | (.bytes before, rest) =>
            let (bytes, halt) := unescapeFrom writer role fuel rest
            (before ++ bytes, halt)
        | (halt, _) => ([], some halt)

def unescape (writer : Writer) (role : Role) (text : String) : Bytes × Option Escape :=
  unescapeFrom writer role text.toList.length text.toList

/-- A number in a directive: none, one that is written there, or the next argument. -/
inductive Amount where
  | absent
  | written (value : Nat)
  | argument

structure Directive where
  flags : List Char
  width : Amount
  precision : Amount
  letter : Char

inductive Piece where
  | escape (escape : Escape)
  | directive (directive : Directive)

/-- A number or an asterisk at the start of a text, and the rest. -/
def amount (text : List Char) : Amount × List Char :=
  match text with
  | '*' :: rest => (.argument, rest)
  | _ =>
      let digits := text.takeWhile Char.isDigit
      (if digits.isEmpty then .absent else .written (Floating.digitsValue digits),
        text.dropWhile Char.isDigit)

def letters : List Char := "diouxXcsfFeEgG".toList

/-- Whether a directive may have its flags and its precision; commands of shells do not care. -/
def agrees (directive : Directive) : Bool :=
  let allowed := fun (flag : Char) =>
    match flag with
    | '\'' => "diufFgG".toList
    | '#' => "oxXfFeEgG".toList
    | '0' => "diouxXfFeEgG".toList
    | _ => letters
  directive.flags.all (fun flag => (allowed flag).contains directive.letter) &&
    (directive.letter ≠ 'c' || (match directive.precision with
      | .absent => true
      | _ => false))

/-- The directive behind a percent sign, and what is behind it. -/
def directive (writer : Writer) (text : List Char) : Piece × List Char :=
  let flagChars := if writer.inShell then "#-+ 0".toList else "#-+ 0'".toList
  let flags := text.takeWhile flagChars.contains
  let (width, behind) := amount (text.drop flags.length)
  let (precision, behind) : Amount × List Char :=
    match behind with
    | '.' :: rest =>
        match amount rest with
        | (.absent, rest) => (.written 0, rest)
        | pair => pair
    | _ => (.absent, behind)
  let behind := if writer.inShell then behind else behind.dropWhile "lLhjtz".toList.contains
  let written := fun (rest : List Char) =>
    String.ofList ('%' :: text.take (text.length - rest.length))
  match behind with
  | [] =>
      if writer.inShell then (.escape (.fault "missing format character"), [])
      else (.escape (.fault (written [] ++ ": invalid conversion specification")), [])
  | letter :: rest =>
      let found : Directive := { flags, width, precision, letter }
      if writer.inShell then
        if letters.contains letter || letter = 'b' then (.directive found, rest)
        else (.escape (.fault (written rest ++ ": invalid directive")), rest)
      else if (letter = 'b' || letter = 'q') && text.head? = some letter then
        (.directive found, rest)
      else if letters.contains letter && agrees found then (.directive found, rest)
      else (.escape (.fault (written rest ++ ": invalid conversion specification")), rest)

def piecesFrom (writer : Writer) : Nat → List Char → List Piece
  | 0, _ | _, [] => []
  | fuel + 1, '%' :: '%' :: rest => .escape (.bytes [0x25]) :: piecesFrom writer fuel rest
  | fuel + 1, '%' :: rest =>
      let (piece, rest) := directive writer rest
      piece :: piecesFrom writer fuel rest
  | fuel + 1, '\\' :: rest =>
      let (found, rest) := escape writer .format rest
      .escape found :: piecesFrom writer fuel rest
  | fuel + 1, c :: rest =>
      .escape (.bytes (Text.Utf8.encodeChar c)) :: piecesFrom writer fuel rest

def pieces (writer : Writer) (format : String) : List Piece :=
  piecesFrom writer format.toList.length format.toList

structure Printing where
  writer : Writer
  arguments : List String
  output : Bytes := []
  /-- The complaints, without what they start with. -/
  complaints : List String := []
  code : Nat := 0
  /-- Whether nothing more is written. -/
  stopped : Bool := false

namespace Printing

def write (printing : Printing) (bytes : Bytes) : Printing :=
  { printing with output := printing.output ++ bytes }

/-- Adds a complaint after which nothing is as it should be. -/
def complain (printing : Printing) (complaint : String) : Printing :=
  { printing with complaints := printing.complaints ++ [complaint], code := 1 }

def pass (printing : Printing) : Escape → Printing
  | .bytes bytes => printing.write bytes
  | .stop =>
      { printing with
        stopped := true, code := if printing.writer.inShell then printing.code else 0 }
  | .fault complaint =>
      { printing.complain complaint with
        stopped := true, code := if printing.writer.inShell then 2 else 1 }

/-- Takes the next argument; absent ones are empty. -/
def next (printing : Printing) : String × Printing :=
  (printing.arguments.headD "", { printing with arguments := printing.arguments.tail })

/-- Complains of an argument that is no number or has something behind it. -/
def check {α : Type} (printing : Printing) (word : String) (read : Prefix α) (inRange : Bool) :
    Printing :=
  let shown := if printing.writer.inShell then word else Quoting.quote word
  let article := if printing.writer.inShell then "" else "a "
  let value := if printing.writer.inShell then "" else "value "
  if !inRange then printing.complain (shown ++ ": Numerical result out of range")
  else if read.rest.isEmpty then printing
  else if !read.found then printing.complain (shown ++ ": expected " ++ article ++ "numeric value")
  else printing.complain (shown ++ ": " ++ value ++ "not completely converted")

/-- The code of the character behind a quote, if a word is one. -/
def quotedCode? (printing : Printing) (word : String) : Option Nat :=
  match word.toList with
  | quote :: c :: _ =>
      if quote = '\'' || quote = '"' then
        (Text.Utf8.encodeChar c).head?.map UInt8.toNat
      else none
  | [quote] => if printing.writer.inShell && (quote = '\'' || quote = '"') then some 0 else none
  | [] => none

def checkQuoted (printing : Printing) (word : String) : Printing :=
  let behind := (Text.Utf8.encode word).drop 2
  if printing.writer.inShell || behind.isEmpty then printing
  else
    { printing with
      complaints := printing.complaints ++ ["warning: " ++ Text.Utf8.decodeLossy behind ++
        ": character(s) following character constant have been ignored"] }

/-- The integer of 64 bits in place of one; without a sign, one out of range is the greatest. -/
def clamp (isSigned : Bool) (value : Int) : Int :=
  if isSigned then max (-0x8000000000000000) (min 0x7FFFFFFFFFFFFFFF value)
  else if value.natAbs < 0x10000000000000000 then value
  else 0xFFFFFFFFFFFFFFFF

def nextInteger (printing : Printing) (isSigned : Bool) : Int × Printing :=
  let (word, printing) := printing.next
  match printing.quotedCode? word with
  | some code => (code, printing.checkQuoted word)
  | none =>
      let read := readInteger word.toList
      let value := clamp isSigned read.value
      (value, printing.check word read (value = read.value))

def nextReal (printing : Printing) : Real × Printing :=
  let (word, printing) := printing.next
  match printing.quotedCode? word with
  | some code => (.ratio false code 1, printing.checkQuoted word)
  | none =>
      let read := readReal word.toList
      (read.value, printing.check word read true)

def amount (printing : Printing) : Amount → Option Int × Printing
  | .absent => (none, printing)
  | .written value => (some value, printing)
  | .argument =>
      let (value, printing) := printing.nextInteger true
      (some value, printing)

def convert (printing : Printing) (layout : Layout) : Printing :=
  let letter := layout.letter
  if letter = 'b' then
    let (word, printing) := printing.next
    let (bytes, halt) := unescape printing.writer .argument word
    let shown := bytes.take (layout.precision.getD bytes.length)
    let printing := printing.write (layout.pad 0x20 shown)
    match halt with
    | some halt => printing.pass halt
    | none => printing
  else if letter = 'q' then
    let isThere := !printing.arguments.isEmpty
    let (word, printing) := printing.next
    if !isThere then printing
    else printing.write (Text.Utf8.encode (Quoting.shellQuote [] word))
  else if letter = 's' then
    let (word, printing) := printing.next
    let bytes := Text.Utf8.encode word
    printing.write (layout.pad 0x20 (bytes.take (layout.precision.getD bytes.length)))
  else if letter = 'c' then
    let (word, printing) := printing.next
    printing.write (layout.pad 0x20 [(Text.Utf8.encode word).headD 0])
  else if letter = 'd' || letter = 'i' then
    let (value, printing) := printing.nextInteger true
    printing.write (Text.Utf8.encodeChars (layout.integer value))
  else if "ouxX".toList.contains letter then
    let (value, printing) := printing.nextInteger false
    printing.write (Text.Utf8.encodeChars (layout.integer value))
  else
    let (value, printing) := printing.nextReal
    let bits := if printing.writer.inShell then 53 else 64
    printing.write (Text.Utf8.encodeChars (layout.real bits value))

def step (printing : Printing) (piece : Piece) : Printing :=
  if printing.stopped then printing
  else
    match piece with
    | .escape found => printing.pass found
    | .directive directive =>
        let (width, printing) := printing.amount directive.width
        let (precision, printing) := printing.amount directive.precision
        let flags := if width.any (· < 0) then '-' :: directive.flags else directive.flags
        printing.convert
          { flags, width := (width.getD 0).natAbs, letter := directive.letter
            precision := (precision.filter (0 ≤ ·)).map Int.toNat }

/-- Writes a format again and again as long as that takes arguments, at most so often. -/
def repeat_ (pieces : List Piece) : Nat → Printing → Printing
  | 0, printing => printing
  | times + 1, printing =>
      let after := pieces.foldl step printing
      if after.stopped || after.arguments.isEmpty ||
          after.arguments.length = printing.arguments.length then
        after
      else repeat_ pieces times after

def finish (printing : Printing) : Printing :=
  match printing.arguments with
  | word :: _ =>
      if printing.writer.inShell || printing.stopped then printing
      else
        { printing with
          complaints := printing.complaints ++
            ["warning: ignoring excess arguments, starting with " ++ Quoting.quote word] }
  | [] => printing

end Printing

/-- Writes a format with its arguments; it is used as often as there are arguments for it. -/
def print (writer : Writer) (format : String) (arguments : List String) : Printing :=
  (Printing.repeat_ (pieces writer format) (arguments.length + 1)
    { writer, arguments }).finish

end Format

end Rehearsal

end Toolbench
