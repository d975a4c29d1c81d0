/-
# Hosts

The host of an address is a numeric address in brackets or not, or a domain
name, which may be written with percent signs, or for schemes that know nothing
of domain names any text without separators.
-/

import Questionnaire.Url.Address
import Questionnaire.Url.DomainName

namespace Questionnaire

/-- A host. -/
inductive Host where
  /-- A domain name by its labels. -/
  | domain (labels : List (List Char))
  /-- An address of the fourth version by its parts. -/
  | versionFour (parts : List (List Char))
  /-- An address of the sixth version without its brackets. -/
  | versionSix (text : List Char)
  /-- A text that is not looked into. -/
  | plain (text : List Char)
  deriving Repr, DecidableEq

namespace Host

/-- The bytes that a text with percent signs stands for. A percent sign without
two hexadecimal digits stands for itself. -/
def percentDecode : List Char → List UInt8
  | [] => []
  | '%' :: first :: second :: rest =>
    match Text.hexDigitValue? first, Text.hexDigitValue? second with
    | some high, some low => UInt8.ofNat (16 * high + low) :: percentDecode rest
    | _, _ => '%'.toNat.toUInt8 :: percentDecode (first :: second :: rest)
  | c :: rest => String.utf8EncodeChar c ++ percentDecode rest

/-- The characters that some bytes are in UTF-8. -/
def ofBytes? (bytes : List UInt8) : Option (List Char) :=
  (String.fromUTF8? ⟨bytes.toArray⟩).map String.toList

/-- The content of brackets. -/
def bracketed? (text : List Char) : Option (List Char) :=
  match text with
  | '[' :: rest => if rest.getLast? == some ']' then some rest.dropLast else none
  | _ => none

/-- The host of an address in brackets. -/
def ofBracketed (text : List Char) : Option Host :=
  match bracketed? text with
  | some content => if Address.isVersionSix content then some (.versionSix content) else none
  | none => none

/-- The host that a text gives where domain names are known. The last part of a
name decides whether all of it must be a numeric address. -/
def ofName? (text : List Char) : Option Host :=
  if text.head? == some '[' then ofBracketed text
  else do
    let characters ← ofBytes? (percentDecode text)
    let labels ← DomainName.labels? characters
    if labels.flatten.isEmpty && labels.length = 1 then none
    else if Address.endsInNumber labels then
      if Address.isVersionFour labels then some (.versionFour labels) else none
    else some (.domain labels)

/-- The characters that cannot stand in a host that is not looked into. -/
def isSeparator (c : Char) : Bool :=
  ['\x00', '\t', '\n', '\r', ' ', '#', '/', ':', '<', '>', '?', '@', '[', '\\', ']', '^',
    '|'].contains c

/-- The host that a text gives where domain names are not known. -/
def ofText? (text : List Char) : Option Host :=
  if text.head? == some '[' then ofBracketed text
  else if text.any isSeparator then none
  else some (.plain text)

end Host

end Questionnaire
