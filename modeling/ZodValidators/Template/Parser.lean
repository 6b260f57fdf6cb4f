import ZodValidators.Template.Basic
import ZodValidators.Template.Literal
import ZodValidators.Text.Utf8

/-!
# Reading templates

`parse` splits a template into text and tags and nests them. Line ends are unified first, and one
line feed right behind a closed tag or comment is left out.
-/

set_option autoImplicit false

namespace ZodValidators.Template

inductive Piece where
  | text (characters : List Char)
  | output (content : List Char)
  | tag (content : List Char)
deriving DecidableEq, Repr

/-- Where the characters of an output or a tag stand: outside of quotes, between them, or there
behind a backslash. -/
inductive Quoting where
  | outside
  | inside (quote : Char)
  | escaped (quote : Char)
deriving DecidableEq, Repr

inductive Region where
  | text
  | output (quoting : Quoting)
  | tag (quoting : Quoting)
  | comment
deriving DecidableEq, Repr

def Quoting.after (character : Char) : Quoting → Quoting
  | .outside => if character = '\'' || character = '"' then .inside character else .outside
  | .inside quote =>
    if character = quote then .outside
    else if character = '\\' then .escaped quote
    else .inside quote
  | .escaped quote => .inside quote

/-- The pieces of the characters in a region, of which `taken` were read before, last one first.
`afterTag` tells that a tag or a comment was closed just before. -/
def piecesFrom (afterTag : Bool) : (region : Region) → (taken characters : List Char) →
    Except Fault (List Piece)
  | .text, taken, [] => .ok [.text taken.reverse]
  | _, _, [] => .error .unclosed
  | .text, taken, '{' :: '{' :: rest => do
    return .text taken.reverse :: (← piecesFrom false (.output .outside) [] rest)
  | .text, taken, '{' :: '%' :: rest => do
    return .text taken.reverse :: (← piecesFrom false (.tag .outside) [] rest)
  | .text, taken, '{' :: '#' :: rest => do
    return .text taken.reverse :: (← piecesFrom false .comment [] rest)
  | .output .outside, taken, '}' :: '}' :: rest => do
    return .output taken.reverse :: (← piecesFrom false .text [] rest)
  | .tag .outside, taken, '%' :: '}' :: rest => do
    return .tag taken.reverse :: (← piecesFrom true .text [] rest)
  | .comment, _, '#' :: '}' :: rest => piecesFrom true .text [] rest
  | .text, taken, character :: rest =>
    if afterTag && character = '\n' then piecesFrom false .text taken rest
    else piecesFrom false .text (character :: taken) rest
  | .output quoting, taken, character :: rest =>
    piecesFrom false (.output (quoting.after character)) (character :: taken) rest
  | .tag quoting, taken, character :: rest =>
    piecesFrom false (.tag (quoting.after character)) (character :: taken) rest
  | .comment, taken, _ :: rest => piecesFrom false .comment taken rest

def pieces (characters : List Char) : Except Fault (List Piece) :=
  piecesFrom false .text [] characters

inductive Word where
  | name (text : String)
  | literal (text : Text)
  | dot
  | bar
deriving DecidableEq, Repr

def isNameCharacter (character : Char) : Bool := character.isAlphanum || character = '_'

inductive Reading where
  | between
  | name (taken : List Char)
  | literal (quoting : Quoting) (taken : List Char)

def Reading.finish : Reading → List Word
  | .name taken => [.name (String.ofList taken.reverse)]
  | _ => []

/-- The words of a tag, or nothing if it holds a character that belongs to none or an escape that is
not complete. -/
def wordsFrom : Reading → List Char → Option (List Word)
  | .literal _ _, [] => none
  | reading, [] => some reading.finish
  | .literal quoting taken, character :: rest =>
    match quoting.after character with
    | .outside => do
      return .literal (← literalText? taken.reverse) :: (← wordsFrom .between rest)
    | quoting => wordsFrom (.literal quoting (character :: taken)) rest
  | reading, character :: rest =>
    if isNameCharacter character then
      match reading with
      | .name taken => wordsFrom (.name (character :: taken)) rest
      | _ => if character.isDigit then none else wordsFrom (.name [character]) rest
    else if character = ' ' || character = '\t' || character = '\n' then do
      return reading.finish ++ (← wordsFrom .between rest)
    else if character = '.' then do
      return reading.finish ++ .dot :: (← wordsFrom .between rest)
    else if character = '|' then do
      return reading.finish ++ .bar :: (← wordsFrom .between rest)
    else if character = '\'' || character = '"' then do
      return reading.finish ++ (← wordsFrom (.literal (.inside character) []) rest)
    else none

def Expression.extend? (value : Expression) : List Word → Option Expression
  | [] => some value
  | .dot :: .name identifier :: rest => Expression.extend? (.member value identifier) rest
  | .bar :: .name filter :: rest => Expression.extend? (.filtered value filter) rest
  | _ => none

def leadingLiterals : List Word → Text × List Word
  | .literal text :: rest =>
    let (following, others) := leadingLiterals rest
    (text ++ following, others)
  | others => ([], others)

/-- The expression that the words spell. Literals in a row are one literal. -/
def expression? : List Word → Option Expression
  | .name name :: rest => Expression.extend? (.name name) rest
  | .literal text :: rest =>
    let (following, rest) := leadingLiterals rest
    Expression.extend? (.literal (text ++ following)) rest
  | _ => none

inductive Opening where
  | conditional (condition : Expression)
  | loop (item : String) (items : Expression)

def Opening.closing : Opening → String
  | .conditional _ => "endif"
  | .loop _ _ => "endfor"

def Opening.node (body : List Node) : Opening → Node
  | .conditional condition => .conditional condition body
  | .loop item items => .loop item items body

/-- The nodes that the pieces make behind `before`, which is given last one first, inside the
opening tags of `opened`, each with the nodes before it. -/
def nest (before : List Node) (opened : List (Opening × List Node)) :
    List Piece → Except Fault (List Node)
  | [] => match opened with
    | [] => .ok before.reverse
    | (opening, _) :: _ => .error (.missingEnd opening.closing)
  | .text characters :: rest =>
    if characters = [] then nest before opened rest
    else nest (.text (String.ofList characters) :: before) opened rest
  | .output content :: rest =>
    match (wordsFrom .between content).bind expression? with
    | some value => nest (.output value :: before) opened rest
    | none => .error (.unknownTag (String.ofList content))
  | .tag content :: rest =>
    match wordsFrom .between content with
    | some (.name "if" :: condition) =>
      match expression? condition with
      | some condition => nest [] ((.conditional condition, before) :: opened) rest
      | none => .error (.unknownTag (String.ofList content))
    | some (.name "for" :: .name item :: .name "in" :: items) =>
      match expression? items with
      | some items => nest [] ((.loop item items, before) :: opened) rest
      | none => .error (.unknownTag (String.ofList content))
    | some [.name closing] =>
      match opened with
      | (opening, outer) :: others =>
        if opening.closing = closing then
          nest (opening.node before.reverse :: outer) others rest
        else .error (.unexpectedEnd closing)
      | [] => .error (.unexpectedEnd closing)
    | _ => .error (.unknownTag (String.ofList content))

def parse (text : List Char) : Except Fault (List Node) := do
  nest [] [] (← pieces (Text.unifyLineEnds text))

end ZodValidators.Template
