import RouteDoc.Output.Json
import RouteDoc.Text.Hexadecimal

/-!
The grammar of JSON, for values without numbers and truth values. Each relation holds between what is read,
the characters that it is read from the start of, and the characters that are left after it.
-/

namespace RouteDoc.Json

open Text

/-- The characters that may stand between the parts of a value. -/
def isSpace (c : Char) : Bool := c == ' ' || c == '\t' || c == '\n' || c == '\r'

/-- Any number of spaces. -/
inductive Spaces : List Char → List Char → Prop
  | none {rest : List Char} : Spaces rest rest
  | more {c : Char} {cs rest : List Char} : isSpace c = true → Spaces cs rest → Spaces (c :: cs) rest

/-- The character that is written as a backslash and a letter or mark. -/
def shortEscape? : Char → Option Char
  | '\x22' => some '\x22'
  | '\\' => some '\\'
  | '/' => some '/'
  | 'b' => some '\x08'
  | 'f' => some '\x0c'
  | 'n' => some '\n'
  | 'r' => some '\r'
  | 't' => some '\t'
  | _ => none

/-- One character between quotes. A code point that four digits cannot write is written by two surrogates. -/
inductive Character (c : Char) : List Char → List Char → Prop
  | plain {rest : List Char} : c ≠ '\x22' → c ≠ '\\' → 0x20 ≤ c.toNat → Character c (c :: rest) rest
  | short {letter : Char} {rest : List Char} : shortEscape? letter = some c →
      Character c ('\\' :: letter :: rest) rest
  | codePoint {cs rest : List Char} : readCodePoint 4 cs = some (c, rest) → Character c ('\\' :: 'u' :: cs) rest
  | surrogates {high low : Nat} {cs later rest : List Char} :
      readHex 4 0 cs = some (high, '\\' :: 'u' :: later) → 0xd800 ≤ high ∧ high < 0xdc00 →
      readHex 4 0 later = some (low, rest) → 0xdc00 ≤ low ∧ low < 0xe000 →
      c.toNat = 0x10000 + 0x400 * (high - 0xd800) + (low - 0xdc00) → Character c ('\\' :: 'u' :: cs) rest

/-- The characters of a text and the quote after them. -/
inductive Content : List Char → List Char → List Char → Prop
  | done {rest : List Char} : Content [] ('\x22' :: rest) rest
  | more {c : Char} {text cs later rest : List Char} : Character c cs later → Content text later rest →
      Content (c :: text) cs rest

/-- A text between quotes. -/
inductive Quoted (content : String) : List Char → List Char → Prop
  | mk {cs rest : List Char} : Content content.toList cs rest → Quoted content ('\x22' :: cs) rest

/-- One or more parts with commas between them, and the mark after the last one. -/
inductive Parts {α : Type} (part : α → List Char → List Char → Prop) (last : Char) :
    List α → List Char → List Char → Prop
  | one {value : α} {cs start stop rest : List Char} : Spaces cs start → part value start stop →
      Spaces stop (last :: rest) → Parts part last [value] cs rest
  | more {value : α} {values : List α} {cs start stop later rest : List Char} : Spaces cs start →
      part value start stop → Spaces stop (',' :: later) → Parts part last values later rest →
      Parts part last (value :: values) cs rest

/-- Any number of parts between two marks. -/
inductive Enclosed {α : Type} (part : α → List Char → List Char → Prop) (first last : Char) :
    List α → List Char → List Char → Prop
  | empty {cs rest : List Char} : Spaces cs (last :: rest) → Enclosed part first last [] (first :: cs) rest
  | filled {values : List α} {cs rest : List Char} : Parts part last values cs rest →
      Enclosed part first last values (first :: cs) rest

/-- A key, a colon and a value. -/
inductive Field (value : Json → List Char → List Char → Prop) :
    String × Json → List Char → List Char → Prop
  | mk {key : String} {json : Json} {cs named later start rest : List Char} : Quoted key cs named →
      Spaces named (':' :: later) → Spaces later start → value json start rest → Field value (key, json) cs rest

/-- A value. -/
inductive Written : Json → List Char → List Char → Prop
  | null {rest : List Char} : Written .null ('n' :: 'u' :: 'l' :: 'l' :: rest) rest
  | text {content : String} {cs rest : List Char} : Quoted content cs rest → Written (.text content) cs rest
  | list {items : List Json} {cs rest : List Char} : Enclosed Written '[' ']' items cs rest →
      Written (.list items) cs rest
  | object {fields : List (String × Json)} {cs rest : List Char} :
      Enclosed (Field Written) '\x7b' '\x7d' fields cs rest → Written (.object fields) cs rest

end RouteDoc.Json
