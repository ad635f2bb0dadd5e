import CircuitDiagram.Machine.Shell.Fixed
import CircuitDiagram.Machine.Shell.Arithmetic

/-!
Printing by a format, and the escapes in what is printed. All texts are texts of the shell, so an
escape may stand for any byte.
-/

namespace CircuitDiagram.Shell

open Decimal (Double)

def octalDigit? (character : Char) : Option Nat :=
  if '0' ≤ character ∧ character ≤ '7' then some (character.toNat - '0'.toNat) else none

/-- The number of at most `limit` octal digits, and what follows them. -/
def octal : (limit : Nat) → Nat → List Char → Nat × List Char
  | 0, number, text => (number, text)
  | _ + 1, number, [] => (number, [])
  | limit + 1, number, character :: rest =>
      match octalDigit? character with
      | some digit => octal limit (number * 8 + digit) rest
      | none => (number, character :: rest)

def byteCharacter (number : Nat) : Char :=
  Char.ofNat (number % 256)

def namedEscape? (character : Char) : Option Char :=
  match character with
  | 'a' => some '\x07'
  | 'b' => some '\x08'
  | 'e' => some '\x1b'
  | 't' => some '\t'
  | 'n' => some '\n'
  | 'v' => some '\x0b'
  | 'f' => some '\x0c'
  | 'r' => some '\r'
  | '\\' => some '\\'
  | _ => none

/-- The character of an escape, from behind its backslash, and what follows; one that means
nothing is its backslash. -/
def escapeIn (text : List Char) : Char × List Char :=
  match text with
  | [] => ('\\', [])
  | next :: rest =>
      match namedEscape? next, octalDigit? next with
      | some character, _ => (character, rest)
      | none, some _ =>
          let (number, others) := octal 3 0 text
          (byteCharacter number, others)
      | none, none => ('\\', text)

/-- A text without its escapes. Octal ones have three digits, or three more behind a zero. An
escaped `c` ends the text and all that is printed. -/
def unescape : (fuel : Nat) → List Char → List Char × Bool
  | 0, _ => ([], false)
  | _ + 1, [] => ([], false)
  | _ + 1, '\\' :: 'c' :: _ => ([], true)
  | fuel + 1, '\\' :: '0' :: rest =>
      let (number, others) := octal 3 0 rest
      let (text, ended) := unescape fuel others
      (byteCharacter number :: text, ended)
  | fuel + 1, '\\' :: rest =>
      let (character, others) := escapeIn rest
      let (text, ended) := unescape fuel others
      (character :: text, ended)
  | fuel + 1, character :: rest =>
      let (text, ended) := unescape fuel rest
      (character :: text, ended)

/-- The words of an `echo`, with a line end unless the first word does without. -/
def echoed (words : List String) : String :=
  let quiet := words.head? == some "-n"
  let text := String.intercalate " " (if quiet then words.drop 1 else words)
  let (characters, ended) := unescape (text.length + 1) text.toList
  String.ofList characters ++ if quiet || ended then "" else "\n"

structure Directive where
  flags : List Char
  width : Nat
  precision : Option Nat
  conversion : Char

namespace Directive

variable (directive : Directive)

def has (flag : Char) : Bool :=
  directive.flags.contains flag

/-- A text in its place. Zeros go between the sign or base before the digits and the digits. -/
def padded (zeroed : Bool) (lead body : String) : String :=
  let missing := directive.width - lead.length - body.length
  let blanks := String.ofList (List.replicate missing ' ')
  if directive.has '-' then lead ++ body ++ blanks
  else if zeroed && directive.has '0' then lead ++ Decimal.zeros missing ++ body
  else blanks ++ lead ++ body

def sign (negative : Bool) : String :=
  if negative then "-" else if directive.has '+' then "+" else if directive.has ' ' then " " else ""

def digits (base number : Nat) : String :=
  let text :=
    if number = 0 && directive.precision == some 0 then ""
    else String.ofList (Nat.toDigits base number)
  Decimal.zeros (directive.precision.getD 1 - text.length) ++ text

def printWhole (number : Int) : String :=
  directive.padded directive.precision.isNone (directive.sign (number < 0))
    (directive.digits 10 number.natAbs)

def printUnsigned (number : Nat) : String :=
  let zeroed := directive.precision.isNone
  let mark := directive.has '#' && number != 0
  match directive.conversion with
  | 'x' => directive.padded zeroed (if mark then "0x" else "") (directive.digits 16 number)
  | 'X' =>
      directive.padded zeroed (if mark then "0X" else "")
        (String.ofList ((directive.digits 16 number).toList.map Char.toUpper))
  | 'o' =>
      let digits := directive.digits 8 number
      directive.padded zeroed ""
        (if directive.has '#' && !digits.startsWith "0" then "0" ++ digits else digits)
  | _ => directive.padded zeroed "" (directive.digits 10 number)

def printText (text : String) : String :=
  directive.padded false ""
    (match directive.precision with
      | some count => String.ofList (text.toList.take count)
      | none => text)

def hexadecimal (number : Decimal.Binary) : String :=
  let lead := number.mantissa.log2
  let digits := (lead + 3) / 4
  let shifted := number.mantissa * Nat.pow 2 (4 * digits - lead)
  let text := String.ofList (Nat.toDigits 16 shifted)
  let fraction := (text.toList.drop 1).reverse.dropWhile (· == '0')
  let exponent := number.exponent + lead
  "1" ++ (if fraction.isEmpty then "" else "." ++ String.ofList fraction.reverse) ++ "p" ++
    (if exponent < 0 then "-" else "+") ++ toString exponent.natAbs

def magnitudeText (magnitude : Double) : String :=
  match magnitude with
  | .infinite => "inf"
  | _ =>
      let (numerator, denominator) := magnitude.fraction?.getD (0, 1)
      let places := directive.precision.getD 6
      match directive.conversion.toLower with
      | 'e' => Decimal.exponential places numerator denominator
      | 'g' => Decimal.general places numerator denominator (directive.has '#')
      | 'a' =>
          match magnitude with
          | .finite number => hexadecimal number
          | _ => "0p+0"
      | _ => Decimal.fixed places numerator denominator

def printMagnitude (negative : Bool) (magnitude : Option Double) : String :=
  let body := match magnitude with
    | some found => directive.magnitudeText found
    | none => "nan"
  let isNumber := magnitude.any fun found => found != .infinite
  let lead := directive.sign negative ++
    if directive.conversion.toLower = 'a' && isNumber then "0x" else ""
  let upper (text : String) : String :=
    if directive.conversion.isUpper then String.ofList (text.toList.map Char.toUpper) else text
  directive.padded isNumber (upper lead) (upper body)

end Directive

/-- What printing has come to: the text so far, last character first; the arguments that are left
and whether any was asked for; what there is to complain of; and whether no more is printed. -/
structure Printing where
  text : List Char
  arguments : List String
  asked : Bool
  complaints : List String
  failed : Bool
  ended : Bool

namespace Printing

variable (printing : Printing)

def put (text : String) : Printing :=
  { printing with text := text.toList.reverse ++ printing.text }

def next : String × Printing :=
  (printing.arguments.headD "",
    { printing with arguments := printing.arguments.drop 1, asked := true })

def complain (complaint : String) : Printing :=
  { printing with complaints := printing.complaints ++ [complaint] }

def fail (complaint : String) : Printing :=
  { printing.complain complaint with failed := true, ended := true }

/-- Complains of an argument of which only a part, or nothing, is a number. -/
def check (argument : String) (rest : Option (List Char)) : Printing :=
  match rest with
  | none =>
      if argument.isEmpty then printing
      else printing.complain (argument ++ ": expected numeric value")
  | some [] => printing
  | some _ => printing.complain (argument ++ ": not completely converted")

/-- A whole number as the next argument, cut to a range; a quote stands before a character that
it is the code of. -/
def nextIn (range : Int → Int) : Int × Printing :=
  let (argument, after) := printing.next
  match argument.toList with
  | '"' :: rest => (((rest.headD '\x00').toNat : Int), after)
  | '\'' :: rest => (((rest.headD '\x00').toNat : Int), after)
  | characters =>
      match Arithmetic.exactNumber? true characters with
      | none => (0, after.check argument none)
      | some (number, rest) =>
          if rest.isEmpty && range number != number then
            (range number, after.complain (argument ++ ": Numerical result out of range"))
          else (range number, after.check argument (some rest))

def nextWhole : Int × Printing :=
  printing.nextIn Arithmetic.clip

def clipMagnitude (number : Int) : Int :=
  let largest : Int := (Arithmetic.wordSize - 1 : Nat)
  if largest < number || number < -largest then largest else number

def nextUnsigned : Int × Printing :=
  printing.nextIn clipMagnitude

end Printing

/-- The digits of a decimal or hexadecimal fraction: all of them as a number, how many are behind
the point, and what follows. -/
def fractionDigits (base : Nat) (text : List Char) : Option (Nat × Nat × List Char) :=
  let whole := text.takeWhile (Arithmetic.isDigitOf base)
  let behind := text.drop whole.length
  let fraction :=
    match behind with
    | '.' :: rest => rest.takeWhile (Arithmetic.isDigitOf base)
    | _ => []
  let rest :=
    match behind with
    | '.' :: _ => behind.drop (fraction.length + 1)
    | _ => behind
  if whole.isEmpty && fraction.isEmpty then none
  else some (Arithmetic.digitsValue base (whole ++ fraction), fraction.length, rest)

/-- An exponent behind one of two letters, if one is there, and what follows. -/
def exponentIn (letter : Char) (text : List Char) : Int × List Char :=
  match text with
  | mark :: rest =>
      if mark.toLower != letter then (0, text)
      else
        let (negative, digits) :=
          match rest with
          | '-' :: others => (true, others)
          | '+' :: others => (false, others)
          | _ => (false, rest)
        let found := digits.takeWhile Char.isDigit
        if found.isEmpty then (0, text)
        else
          let value : Int := (Arithmetic.digitsValue 10 found : Nat)
          let small : Int := if 5000 < value then 5000 else value
          (if negative then -small else small, digits.drop found.length)
  | [] => (0, [])

def startsWithWord (word : String) (text : List Char) : Bool :=
  word.toList.isPrefixOf (text.map Char.toLower)

/-- The magnitude that a text begins with, where nothing is no number, and what follows. -/
def leadingMagnitude? (text : List Char) : Option (Option Double × List Char) :=
  if startsWithWord "infinity" text then some (some .infinite, text.drop 8)
  else if startsWithWord "inf" text then some (some .infinite, text.drop 3)
  else if startsWithWord "nan" text then some (none, text.drop 3)
  else
    let hexadecimal := if startsWithWord "0x" text then fractionDigits 16 (text.drop 2) else none
    match hexadecimal with
    | some (digits, places, rest) =>
        let (exponent, others) := exponentIn 'p' rest
        let shift := exponent - 4 * places
        some (some (Double.nearest (digits * Decimal.twoTo shift) (Decimal.twoTo (-shift))), others)
    | none =>
        (fractionDigits 10 text).map fun (digits, places, rest) =>
          let (exponent, others) := exponentIn 'e' rest
          let shift := exponent - places
          (some (Double.nearest (digits * Decimal.tenTo shift) (Decimal.tenTo (-shift))), others)

/-- The number that a text begins with: whether it is negative, its magnitude, and the rest. -/
def leadingDecimal? (text : List Char) : Option (Bool × Option Double × List Char) :=
  let bare := text.dropWhile Char.isWhitespace
  let (negative, digits) :=
    match bare with
    | '-' :: rest => (true, rest)
    | '+' :: rest => (false, rest)
    | _ => (false, bare)
  (leadingMagnitude? digits).map fun (magnitude, rest) => (negative, magnitude, rest)

def Printing.nextDecimal (printing : Printing) : Bool × Option Double × Printing :=
  let (argument, after) := printing.next
  match argument.toList with
  | '"' :: rest => (false, some (Double.ofNat (rest.headD '\x00').toNat), after)
  | '\'' :: rest => (false, some (Double.ofNat (rest.headD '\x00').toNat), after)
  | characters =>
      match leadingDecimal? characters with
      | none => (false, some .zero, after.check argument none)
      | some (negative, magnitude, rest) =>
          let isNumeral := characters.any Char.isDigit
          (negative, magnitude,
            if rest.isEmpty && isNumeral && magnitude == some .infinite then
              after.complain (argument ++ ": Numerical result out of range")
            else after.check argument (some rest))

def readCount (text : List Char) (printing : Printing) : Option Int × List Char × Printing :=
  match text with
  | '*' :: rest =>
      let (number, after) := printing.nextWhole
      (some number, rest, after)
  | _ =>
      let digits := text.takeWhile Char.isDigit
      (if digits.isEmpty then none else some ((Arithmetic.digitsValue 10 digits : Nat) : Int),
        text.drop digits.length, printing)

/-- A directive from behind its percent sign: the directive up to its conversion, the conversion
and what follows it. -/
def readDirective (text : List Char) (printing : Printing) :
    Directive × List Char × Printing :=
  let flags := text.takeWhile fun character => "-0+ #".toList.contains character
  let (width, behindWidth, first) := readCount (text.drop flags.length) printing
  let (precision, rest, second) :=
    match behindWidth with
    | '.' :: others =>
        let (count, behind, after) := readCount others first
        (some (count.getD 0), behind, after)
    | _ => (none, behindWidth, first)
  let count := width.getD 0
  (⟨if count < 0 then '-' :: flags else flags, count.natAbs,
      precision.bind (fun number => if number < 0 then none else some number.toNat),
      rest.headD '\x00'⟩, rest, second)

def Printing.direct (printing : Printing) (directive : Directive) (spelling : String) :
    Printing :=
  match directive.conversion with
  | 's' =>
      let (argument, after) := printing.next
      after.put (directive.printText argument)
  | 'b' =>
      let (argument, after) := printing.next
      let (text, ended) := unescape (argument.length + 1) argument.toList
      { after.put (directive.printText (String.ofList text)) with ended }
  | 'c' =>
      let (argument, after) := printing.next
      after.put ({ directive with precision := none }.printText
        (argument.toList.headD '\x00').toString)
  | _ =>
      if "di".toList.contains directive.conversion then
        let (number, after) := printing.nextWhole
        after.put (directive.printWhole number)
      else if "ouxX".toList.contains directive.conversion then
        let (number, after) := printing.nextUnsigned
        after.put (directive.printUnsigned (number % Arithmetic.wordSize).toNat)
      else if "aAeEfFgG".toList.contains directive.conversion then
        let (negative, magnitude, after) := printing.nextDecimal
        after.put (directive.printMagnitude negative magnitude)
      else printing.fail ("%" ++ spelling ++ ": invalid directive")

def formatOnce : (fuel : Nat) → List Char → Printing → Printing
  | 0, _, printing => printing
  | _ + 1, [], printing => printing
  | fuel + 1, '%' :: '%' :: rest, printing => formatOnce fuel rest (printing.put "%")
  | fuel + 1, '%' :: text, printing =>
      let (directive, rest, after) := readDirective text printing
      match rest with
      | [] => after.fail "missing format character"
      | _ :: others =>
          let spelling := String.ofList (text.take (text.length - others.length))
          let printed := after.direct directive spelling
          if printed.ended then printed else formatOnce fuel others printed
  | fuel + 1, '\\' :: rest, printing =>
      let (character, others) := escapeIn rest
      formatOnce fuel others (printing.put character.toString)
  | fuel + 1, character :: rest, printing =>
      formatOnce fuel rest (printing.put character.toString)

/-- A format is used again while it asks for arguments and some are left. -/
def formatAll : (rounds : Nat) → String → Printing → Printing
  | 0, _, printing => printing
  | rounds + 1, format, printing =>
      let after := formatOnce (format.length + 1) format.toList { printing with asked := false }
      if after.ended || !after.asked || after.arguments.isEmpty then after
      else formatAll rounds format after

def formatted (format : String) (arguments : List String) : Printing :=
  formatAll (arguments.length + 1) format ⟨[], arguments, false, [], false, false⟩

end CircuitDiagram.Shell
