import SourceLedger.Syntax.Tree

/-!
# Tokens

The lexemes of Python 3.11 and where they stand. A name is kept as it is spelled; it is
normalised when a tree is built from it.
-/

namespace SourceLedger.Token

/-- The reserved words. -/
inductive Keyword
  | falseKw
  | noneKw
  | trueKw
  | andKw
  | asKw
  | assertKw
  | asyncKw
  | awaitKw
  | breakKw
  | classKw
  | continueKw
  | defKw
  | delKw
  | elifKw
  | elseKw
  | exceptKw
  | finallyKw
  | forKw
  | fromKw
  | globalKw
  | ifKw
  | importKw
  | inKw
  | isKw
  | lambdaKw
  | nonlocalKw
  | notKw
  | orKw
  | passKw
  | raiseKw
  | returnKw
  | tryKw
  | whileKw
  | withKw
  | yieldKw
  deriving DecidableEq, Repr

namespace Keyword

def spelling : Keyword → List Char
  | falseKw => ['F', 'a', 'l', 's', 'e']
  | noneKw => ['N', 'o', 'n', 'e']
  | trueKw => ['T', 'r', 'u', 'e']
  | andKw => ['a', 'n', 'd']
  | asKw => ['a', 's']
  | assertKw => ['a', 's', 's', 'e', 'r', 't']
  | asyncKw => ['a', 's', 'y', 'n', 'c']
  | awaitKw => ['a', 'w', 'a', 'i', 't']
  | breakKw => ['b', 'r', 'e', 'a', 'k']
  | classKw => ['c', 'l', 'a', 's', 's']
  | continueKw => ['c', 'o', 'n', 't', 'i', 'n', 'u', 'e']
  | defKw => ['d', 'e', 'f']
  | delKw => ['d', 'e', 'l']
  | elifKw => ['e', 'l', 'i', 'f']
  | elseKw => ['e', 'l', 's', 'e']
  | exceptKw => ['e', 'x', 'c', 'e', 'p', 't']
  | finallyKw => ['f', 'i', 'n', 'a', 'l', 'l', 'y']
  | forKw => ['f', 'o', 'r']
  | fromKw => ['f', 'r', 'o', 'm']
  | globalKw => ['g', 'l', 'o', 'b', 'a', 'l']
  | ifKw => ['i', 'f']
  | importKw => ['i', 'm', 'p', 'o', 'r', 't']
  | inKw => ['i', 'n']
  | isKw => ['i', 's']
  | lambdaKw => ['l', 'a', 'm', 'b', 'd', 'a']
  | nonlocalKw => ['n', 'o', 'n', 'l', 'o', 'c', 'a', 'l']
  | notKw => ['n', 'o', 't']
  | orKw => ['o', 'r']
  | passKw => ['p', 'a', 's', 's']
  | raiseKw => ['r', 'a', 'i', 's', 'e']
  | returnKw => ['r', 'e', 't', 'u', 'r', 'n']
  | tryKw => ['t', 'r', 'y']
  | whileKw => ['w', 'h', 'i', 'l', 'e']
  | withKw => ['w', 'i', 't', 'h']
  | yieldKw => ['y', 'i', 'e', 'l', 'd']

/-- The reserved words that are reserved everywhere: all but `async` and `await`. -/
def everywhere : List Keyword :=
  [falseKw, noneKw, trueKw, andKw, asKw, assertKw, breakKw, classKw, continueKw, defKw, delKw,
    elifKw, elseKw, exceptKw, finallyKw, forKw, fromKw, globalKw, ifKw, importKw, inKw, isKw,
    lambdaKw, nonlocalKw, notKw, orKw, passKw, raiseKw, returnKw, tryKw, whileKw, withKw,
    yieldKw]

/-- The word that is reserved everywhere and has a given spelling. -/
def ofChars? (s : List Char) : Option Keyword := everywhere.find? fun k => k.spelling == s

end Keyword

/-- The operators and delimiters. -/
inductive Symbol
  | leftShiftEqual
  | rightShiftEqual
  | doubleStarEqual
  | doubleSlashEqual
  | ellipsis
  | equalEqual
  | notEqual
  | lessEqual
  | greaterEqual
  | leftShift
  | rightShift
  | doubleStar
  | doubleSlash
  | arrow
  | colonEqual
  | plusEqual
  | minusEqual
  | starEqual
  | slashEqual
  | percentEqual
  | ampersandEqual
  | barEqual
  | caretEqual
  | atEqual
  | leftParen
  | rightParen
  | leftBracket
  | rightBracket
  | leftBrace
  | rightBrace
  | colon
  | comma
  | semicolon
  | plus
  | minus
  | star
  | slash
  | bar
  | ampersand
  | less
  | greater
  | equal
  | dot
  | percent
  | tilde
  | caret
  | atSign
  deriving DecidableEq, Repr

namespace Symbol

def spelling : Symbol → List Char
  | leftShiftEqual => ['<', '<', '=']
  | rightShiftEqual => ['>', '>', '=']
  | doubleStarEqual => ['*', '*', '=']
  | doubleSlashEqual => ['/', '/', '=']
  | ellipsis => ['.', '.', '.']
  | equalEqual => ['=', '=']
  | notEqual => ['!', '=']
  | lessEqual => ['<', '=']
  | greaterEqual => ['>', '=']
  | leftShift => ['<', '<']
  | rightShift => ['>', '>']
  | doubleStar => ['*', '*']
  | doubleSlash => ['/', '/']
  | arrow => ['-', '>']
  | colonEqual => [':', '=']
  | plusEqual => ['+', '=']
  | minusEqual => ['-', '=']
  | starEqual => ['*', '=']
  | slashEqual => ['/', '=']
  | percentEqual => ['%', '=']
  | ampersandEqual => ['&', '=']
  | barEqual => ['|', '=']
  | caretEqual => ['^', '=']
  | atEqual => ['@', '=']
  | leftParen => ['(']
  | rightParen => [')']
  | leftBracket => ['[']
  | rightBracket => [']']
  | leftBrace => ['{']
  | rightBrace => ['}']
  | colon => [':']
  | comma => [',']
  | semicolon => [';']
  | plus => ['+']
  | minus => ['-']
  | star => ['*']
  | slash => ['/']
  | bar => ['|']
  | ampersand => ['&']
  | less => ['<']
  | greater => ['>']
  | equal => ['=']
  | dot => ['.']
  | percent => ['%']
  | tilde => ['~']
  | caret => ['^']
  | atSign => ['@']

/-- All symbols, longer ones first. -/
def all : List Symbol :=
  [leftShiftEqual, rightShiftEqual, doubleStarEqual, doubleSlashEqual, ellipsis, equalEqual,
    notEqual, lessEqual, greaterEqual, leftShift, rightShift, doubleStar, doubleSlash, arrow,
    colonEqual, plusEqual, minusEqual, starEqual, slashEqual, percentEqual, ampersandEqual,
    barEqual, caretEqual, atEqual, leftParen, rightParen, leftBracket, rightBracket,
    leftBrace, rightBrace, colon, comma, semicolon, plus, minus, star, slash, bar, ampersand,
    less, greater, equal, dot, percent, tilde, caret, atSign]

/-- The longest symbol at the start of a text. -/
def atStart? (s : List Char) : Option Symbol := all.find? fun y => y.spelling.isPrefixOf s

end Symbol

inductive Lexeme
  | name (spelling : List Char)
  | keyword (word : Keyword)
  | symbol (symbol : Symbol)
  | number (spelling : List Char)
  | string (spelling : List Char)
  | typeComment (text : List Char)
  | newline
  | indent
  | dedent
  | endOfSource
  deriving DecidableEq, Repr

/-- Layout lexemes have no extent of their own: a construct ends before them. -/
def Lexeme.isLayout : Lexeme → Bool
  | .newline | .indent | .dedent | .endOfSource => true
  | _ => false

end SourceLedger.Token

namespace SourceLedger

open Syntax (Position Span TypeIgnore)

structure Token where
  lexeme : Token.Lexeme
  span : Span
  deriving DecidableEq, Repr

namespace Syntax.Position

/-- The position after a character. -/
def after (p : Position) (c : Char) : Position :=
  if c = '\n' then ⟨p.line + 1, 0⟩ else ⟨p.line, p.column + Utf8.width c⟩

def afterAll (p : Position) (s : List Char) : Position := s.foldl after p

end Syntax.Position

/-- A place in a source: what is still to be read, and where it stands. -/
structure Token.Cursor where
  rest : List Char
  position : Position

namespace Token.Cursor

def drop (c : Cursor) (count : Nat) : Cursor :=
  ⟨c.rest.drop count, c.position.afterAll (c.rest.take count)⟩

end Token.Cursor

end SourceLedger
