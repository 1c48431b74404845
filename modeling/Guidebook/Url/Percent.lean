import Guidebook.Text.Ascii

/-!
# Percent encoding

A character that may not stand in a part of an address is written as the bytes of its UTF-8 form,
each behind a percent sign.  Which characters those are depends on the part.
-/

namespace Guidebook.Url

open Guidebook.Text

/-- A byte as a percent sign and two hexadecimal digits. -/
def percentByte (byte : UInt8) : List Char :=
  ['%', upperHexDigit (byte.toNat / 16), upperHexDigit (byte.toNat % 16)]

/-- The bytes of a character in UTF-8. -/
def bytesOf (c : Char) : List UInt8 :=
  (String.singleton c).toUTF8.toList

/-- A text in which the characters of a set are encoded. -/
def encode (set : Char → Bool) (text : List Char) : List Char :=
  text.flatMap fun c => if set c then (bytesOf c).flatMap percentByte else [c]

/-- Control characters, and all characters beyond ASCII. -/
def isControl (c : Char) : Bool :=
  c.toNat < 0x20 || 0x7E < c.toNat

/-- The characters encoded in a fragment. -/
def isEncodedInFragment (c : Char) : Bool :=
  isControl c || [' ', '"', '<', '>', '\x60'].contains c

/-- The characters encoded in a path. -/
def isEncodedInPath (c : Char) : Bool :=
  isEncodedInFragment c || ['#', '?', '\x7b', '\x7d'].contains c

/-- The characters encoded in a user name or password. -/
def isEncodedInCredentials (c : Char) : Bool :=
  isEncodedInPath c || ['/', ':', ';', '=', '@', '[', '\\', ']', '^', '|'].contains c

/-- The characters encoded in a query; an apostrophe is one of them in special schemes. -/
def isEncodedInQuery (special : Bool) (c : Char) : Bool :=
  isControl c || [' ', '"', '#', '<', '>'].contains c || (special && c == '\'')

/-- The bytes that a text stands for, percent signs decoded where two digits follow. -/
def decodeBytes : List Char → List UInt8
  | '%' :: first :: second :: rest =>
    match hexDigit? first, hexDigit? second with
    | some high, some low => (high * 16 + low).toUInt8 :: decodeBytes rest
    | _, _ => 37 :: decodeBytes (first :: second :: rest)
  | c :: rest => bytesOf c ++ decodeBytes rest
  | [] => []

/-- The text that a percent-encoded text stands for, if its bytes are UTF-8. -/
def decode? (text : List Char) : Option (List Char) :=
  (String.fromUTF8? (decodeBytes text).toByteArray).map String.toList

/-- The value of a form field: letters, digits and four marks as they are, blanks as plus signs. -/
def encodeField (text : String) : List Char :=
  text.toList.flatMap fun c =>
    if c = ' ' then ['+']
    else if isLetter c || isDigit c || ['*', '-', '.', '_'].contains c then [c]
    else (bytesOf c).flatMap percentByte

end Guidebook.Url
