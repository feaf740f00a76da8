import Stencil.Unicode.BinaryProperty

/-!
This module contains the character properties that the language and its quoted texts ask for
(Unicode 17): the sets of Unicode 16 with what was added since. The answers for ASCII are spelled
out, and a blank is by definition neither a letter nor a number, so that the lexical laws of the
language never have to look into a table.
-/

namespace Stencil

namespace Unicode

def isBlank (c : Char) : Bool :=
  let n := c.toNat
  (9 ≤ n && n ≤ 13) || n == 0x20 || n == 0x85 || n == 0xa0 || n == 0x1680
    || (0x2000 ≤ n && n ≤ 0x200a) || n == 0x2028 || n == 0x2029 || n == 0x202f || n == 0x205f
    || n == 0x3000

def isAsciiBlank (c : Char) : Bool :=
  c == ' ' || c == '\t' || c == '\n' || c == '\x0c' || c == '\r'

def isAsciiLetter (c : Char) : Bool :=
  ('a' ≤ c && c ≤ 'z') || ('A' ≤ c && c ≤ 'Z')

def isAsciiDigit (c : Char) : Bool :=
  '0' ≤ c && c ≤ '9'

def newRuns : RunSet := .ofText
  "88f c5c cdc 1acf-1add 1ae0-1aeb 20c1 2b96 a7ce-a7cf a7d2 a7d4 a7f1 fbc3-fbd2 fd90-fd91
   fdc8-fdce 10940-10959 10ec5-10ec7 10ed0-10ed8 10efa-10efb 11b60-11b67 11db0-11ddb 11de0-11de9
   16ea0-16eb8 16ebb-16ed3 16ff2-16ff6 187f8-187ff 18d09-18d1e 18d80-18df2 1ccfa-1ccfc
   1ceba-1ced0 1cee0-1cef0 1e6c0-1e6de 1e6e0-1e6f5 1e6fe-1e6ff 1f6d8 1f777-1f77a 1f8d0-1f8d8
   1fa54-1fa57 1fa8a 1fa8e 1fac8 1facd 1faea 1faef 1fbfa 2b73a-2b73f 2cea2-2cead 323b0-33479"

def newAlphabeticRuns : RunSet := .ofText
  "88f c5c cdc a7ce-a7cf a7d2 a7d4 a7f1 10940-10959 10ec5-10ec7 10efa-10efb 11b60-11b67
   11db0-11ddb 16ea0-16eb8 16ebb-16ed3 16ff2-16ff6 187f8-187ff 18d09-18d1e 18d80-18df2
   1e6c0-1e6de 1e6e0-1e6f5 1e6fe-1e6ff 2b73a-2b73f 2cea2-2cead 323b0-33479"

def newNumericRuns : RunSet := .ofText
  "11de0-11de9 16ff4-16ff6"

def newCasedRuns : RunSet := .ofText
  "a7ce-a7cf a7d2 a7d4 a7f1 16ea0-16eb8 16ebb-16ed3"

def newMarkRuns : RunSet := .ofText
  "1acf-1add 1ae0-1aeb 10efa-10efb 11b60 11b62-11b64 11b66 1e6e3 1e6e6 1e6ee-1e6ef 1e6f5"

def newModifierRuns : RunSet := .ofText
  "a7f1 10ec5 11dd9 16ff2-16ff3 1e6ff"

def isAlphabetic (c : Char) : Bool :=
  if c.toNat < 128 then isAsciiLetter c
  else !isBlank c && (BinaryProperty.alphabetic.contains c || newAlphabeticRuns.contains c.toNat)

def isNumeric (c : Char) : Bool :=
  if c.toNat < 128 then isAsciiDigit c
  else !isBlank c
    && (Category.decimalNumber.contains c || Category.letterNumber.contains c
      || Category.otherNumber.contains c || newNumericRuns.contains c.toNat)

def isAlphanumeric (c : Char) : Bool :=
  isAlphabetic c || isNumeric c

def isCased (c : Char) : Bool :=
  (BinaryProperty.cased.contains c && c != 'ʕ') || newCasedRuns.contains c.toNat

def isCaseIgnorable (c : Char) : Bool :=
  BinaryProperty.caseIgnorable.contains c || newMarkRuns.contains c.toNat
    || newModifierRuns.contains c.toNat

def isExtender (c : Char) : Bool :=
  128 ≤ c.toNat && (BinaryProperty.graphemeExtend.contains c || newMarkRuns.contains c.toNat)

def isPrintable (c : Char) : Bool :=
  if c.toNat < 128 then 0x20 ≤ c.toNat && c.toNat < 0x7f
  else !(Category.spaceSeparator.contains c || Category.lineSeparator.contains c
    || Category.paragraphSeparator.contains c || Category.control.contains c
    || Category.format.contains c || Category.privateUse.contains c
    || (Category.unassigned.contains c && !newRuns.contains c.toNat))

end Unicode

end Stencil
