import TagEdit.Unicode.Property

/-!
# Letters, digits and blanks

The character classes that words, names and blanks are made of. Names and the
casing of texts follow Unicode 17, one edition after the tables of patterns: the
sets here extend those of patterns by what the later edition adds. Below 128 a
class is decided without a table.
-/

namespace TagEdit.Unicode

/-- The letters that the later edition adds. -/
def laterAlphabetic : CharSet := CharSet.decode
  "88f c5c cdc a7ce-a7cf a7d2 a7d4 a7f1 10940-10959 10ec5-10ec7 10efa-10efb 11b60-11b67 11db0-11ddb
  16ea0-16eb8 16ebb-16ed3 16ff2-16ff6 187f8-187ff 18d09-18d1e 18d80-18df2 1e6c0-1e6de 1e6e0-1e6f5
  1e6fe-1e6ff 2b73a-2b73f 2cea2-2cead 323b0-33479"

/-- The characters with a case that the later edition adds. -/
def laterCased : CharSet := CharSet.decode
  "a7ce-a7cf a7d2 a7d4 a7f1 16ea0-16eb8 16ebb-16ed3"

/-- The characters without influence on casing that the later edition adds. -/
def laterCaseIgnorable : CharSet := CharSet.decode
  "1acf-1add 1ae0-1aeb a7f1 10ec5 10efa-10efb 11b60 11b62-11b64 11b66 11dd9 16ff2-16ff3 1e6e3 1e6e6
  1e6ee-1e6ef 1e6f5 1e6ff"

def alphabeticSet : CharSet := Property.alphabetic.union laterAlphabetic

/-- The numeric characters: decimal digits, letter numbers and other numbers. -/
def numericSet : CharSet :=
  (Category.setOf Category.numbers).union (CharSet.decode "11de0-11de9 16ff4-16ff6")

/-- The characters that have a case. The later edition takes it from one pharyngeal letter. -/
def casedSet : CharSet := (Property.cased.union laterCased).diff (CharSet.single 0x295)

/-- The characters that casing looks past. -/
def caseIgnorableSet : CharSet := Property.caseIgnorable.union laterCaseIgnorable

def isAlphabetic (c : Char) : Bool :=
  if c.toNat < 128 then c.isAlpha else alphabeticSet.contains c

def isNumeric (c : Char) : Bool :=
  if c.toNat < 128 then c.isDigit else numericSet.contains c

def isAlphanumeric (c : Char) : Bool := isAlphabetic c || isNumeric c

def isBlank (c : Char) : Bool := Property.whiteSpace.contains c

def isCased (c : Char) : Bool :=
  if c.toNat < 128 then c.isAlpha else casedSet.contains c

def isCaseIgnorable (c : Char) : Bool := caseIgnorableSet.contains c

/-- Whether a character belongs to words, as word boundaries see them. -/
def isWordChar (c : Char) : Bool :=
  if c.toNat < 128 then c.isAlphanum || c == '_' else Property.word.contains c

end TagEdit.Unicode
