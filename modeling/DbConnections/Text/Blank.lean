namespace DbConnections

namespace Text

def wideBlanks : List Nat :=
  [0x85, 0xA0, 0x1680, 0x2000, 0x2001, 0x2002, 0x2003, 0x2004, 0x2005, 0x2006, 0x2007,
   0x2008, 0x2009, 0x200A, 0x2028, 0x2029, 0x202F, 0x205F, 0x3000]

/-- Whether a character is a blank: tab, line feed, vertical tab, form feed, carriage return,
space, or one of `wideBlanks`. The ASCII information separators (U+001C to U+001F) are not
blanks. -/
def isBlank (c : Char) : Bool :=
  (9 ≤ c.toNat && c.toNat ≤ 13) || c.toNat == 32 || wideBlanks.contains c.toNat

end Text

end DbConnections
