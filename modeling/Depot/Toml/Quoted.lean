import Depot.Text.Numeral
import Depot.Toml.Scan

/-!
Text between quotation marks, and keys. There are four forms: double marks allow escapes and single
ones do not, and three of a mark in a row allow several lines. A text is written in the plainest
form that can hold it.
-/

namespace Depot.Toml.Quoted

open Scan

/-! ## Reading -/

def escapes : List (Char × Char) :=
  [('b', '\x08'), ('t', '\t'), ('n', '\n'), ('f', '\x0c'), ('r', '\r'), ('"', '"'), ('\\', '\\')]

def coded (digits : Nat) : Scan Char := do
  let code := Numeral.valueOf 16 (← exactly Numeral.isHexDigit digits)
  if code.isValidChar then return Char.ofNat code else failure

def escape : Scan Char := do
  literal "\\"
  let letter ← one fun _ => true
  if letter = 'u' then coded 4
  else if letter = 'U' then coded 8
  else match escapes.lookup letter with
    | some character => return character
    | none => failure

/-- Characters that stand for themselves between double marks. -/
def plainBasic : Scan (List Char) :=
  takeSome fun character => isPlain character && character != '"' && character != '\\'

/-- Characters that stand for themselves between single marks. -/
def plainLiteral : Scan (List Char) :=
  takeSome fun character => isPlain character && character != '\''

def basic : Scan String := do
  literal "\""
  let parts ← many (plainBasic <|> (fun character => [character]) <$> escape)
  literal "\""
  return String.ofList parts.flatten

def literalText : Scan String := do
  literal "'"
  let characters ← optional plainLiteral
  literal "'"
  return String.ofList (characters.getD [])

/-- A backslash at the end of a line; it takes away all blanks and line ends that follow. -/
def continuation : Scan (List Char) := do
  literal "\\"
  spaces
  newline
  let _ ← many (newline <|> takeSome isSpace *> pure ())
  return []

/-- Marks within a text of several lines; three in a row would end it. -/
def innerMarks (mark : Char) : Scan (List Char) := do
  let marks ← takeSome (· == mark)
  if marks.length < 3 then return marks else failure

/-- The three marks that end a text of several lines, and before them up to two that belong to
it. -/
def lastMarks (mark : Char) : Scan (List Char) := do
  let marks ← takeWhile (· == mark)
  if 3 ≤ marks.length ∧ marks.length ≤ 5 then return marks.drop 3 else failure

/-- A text of several lines. A line end right behind the opening marks does not count. -/
def lines (mark : Char) (part : Scan (List Char)) : Scan String := do
  literal (String.ofList [mark, mark, mark])
  let _ ← optional newline
  let parts ← many (part <|> newline *> pure ['\n'] <|> innerMarks mark)
  return String.ofList (parts.flatten ++ (← lastMarks mark))

def basicLines : Scan String :=
  lines '"' (plainBasic <|> continuation <|> (fun character => [character]) <$> escape)

def literalLines : Scan String := lines '\'' plainLiteral

def text : Scan String := basicLines <|> basic <|> literalLines <|> literalText

def isBare (character : Char) : Bool :=
  character.isAlphanum || character == '_' || character == '-'

def keyPart : Scan String := basic <|> literalText <|> String.ofList <$> takeSome isBare

/-! ## Writing -/

/-- The longest run of a character in a text; `current` is the length of the run before it. -/
def longestRun (mark : Char) : (current : Nat) → List Char → Nat
  | current, [] => current
  | current, first :: rest =>
      if first = mark then longestRun mark (current + 1) rest
      else max current (longestRun mark 0 rest)

/-- Whether a character can only be written by its code or as an escape. -/
def isControl (character : Char) : Bool :=
  (character.toNat < 0x20 && character != '\t' && character != '\n') || character.toNat = 0x7F

def escapeOf (character : Char) : List Char :=
  match escapes.find? fun escape => escape.2 == character with
  | some (letter, _) => ['\\', letter]
  | none => '\\' :: 'u' :: ((Numeral.hexNumber 4 character.toNat).toList.map Char.toUpper)

/-- A text as it is written between double marks. Up to `spare` marks in a row need no escape;
`marks` counts those right before the text. -/
def escaped (spare : Nat) (keepLines : Bool) : (marks : Nat) → List Char → List Char
  | _, [] => []
  | marks, first :: rest =>
      if first = '"' then
        if marks < spare then first :: escaped spare keepLines (marks + 1) rest
        else escapeOf first ++ escaped spare keepLines 0 rest
      else if first = '\\' || first = '\t' || isControl first || (first = '\n' && !keepLines) then
        escapeOf first ++ escaped spare keepLines 0 rest
      else first :: escaped spare keepLines 0 rest

def writeBasic (text : List Char) : List Char := '"' :: escaped 0 false 0 text ++ ['"']

def writeLiteral (text : List Char) : List Char := '\'' :: text ++ ['\'']

/-- Text between three marks; if it has several lines, it begins on a line of its own. -/
def betweenThree (mark : Char) (severalLines : Bool) (text : List Char) : List Char :=
  List.replicate 3 mark ++ (if severalLines then ['\n'] else []) ++ text ++ List.replicate 3 mark

def write (text : String) : String :=
  let text := text.toList
  let isCoded := text.any isControl
  let hasBackslash := '\\' ∈ text
  let hasLines := '\n' ∈ text
  let doubles := longestRun '"' 0 text
  let singles := longestRun '\'' 0 text
  String.ofList <|
    if !isCoded ∧ !hasBackslash ∧ !hasLines ∧ doubles = 0 then writeBasic text
    else if !isCoded ∧ !hasLines ∧ singles = 0 then writeLiteral text
    else if !isCoded ∧ !hasBackslash ∧ doubles ≤ 2 then
      betweenThree '"' hasLines (escaped 2 true 0 text)
    else if !isCoded ∧ singles ≤ 2 then betweenThree '\'' hasLines text
    else if hasLines then betweenThree '"' hasLines (escaped 2 true 0 text)
    else writeBasic text

/-- One part of a key: without marks if it can be. -/
def writeKey (key : String) : String :=
  let text := key.toList
  let isCoded := text.any isControl || '\n' ∈ text
  String.ofList <|
    if text ≠ [] ∧ text.all isBare then text
    else if !isCoded ∧ '\\' ∉ text ∧ '"' ∉ text then writeBasic text
    else if !isCoded ∧ '\'' ∉ text then writeLiteral text
    else writeBasic text

example : write "it's" = "\"it's\"" := by decide +kernel
example : write "a \"word\"" = "'a \"word\"'" := by decide +kernel
example : write "two\nlines" = "\"\"\"\ntwo\nlines\"\"\"" := by decide +kernel
example : write "\x00" = "\"\\u0000\"" := by decide +kernel
example : text.whole "\"\"\"\"a\" \\\n  \\u0062\"\"\"\"" = some "\"a\" b\"" := by decide +kernel

end Depot.Toml.Quoted
