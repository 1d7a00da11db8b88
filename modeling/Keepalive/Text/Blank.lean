/-!
# White space

Two classes of blank characters. `isBlank` is the wide class: Unicode white space together with the four separators
U+001C to U+001F; it is what surrounds a value that is trimmed. `isNarrowBlank` is the ASCII class: space, tab and the four
line controls U+000A to U+000D. `trim` cuts a class off both ends of a text.
-/

namespace Keepalive.Text

/-- White space: the Unicode property, and the information separators U+001C to U+001F. -/
def isBlank (c : Char) : Bool :=
  let n := c.toNat
  (9 ≤ n && n ≤ 13) || (28 ≤ n && n ≤ 32) || n == 0x85 || n == 0xa0 || n == 0x1680 || (0x2000 ≤ n && n ≤ 0x200a) ||
    n == 0x2028 || n == 0x2029 || n == 0x202f || n == 0x205f || n == 0x3000

/-- ASCII white space: space, tab, line feed, vertical tab, form feed and carriage return. -/
def isNarrowBlank (c : Char) : Bool :=
  let n := c.toNat
  (9 ≤ n && n ≤ 13) || n == 32

/-- White space that does not end a line. -/
def isInlineBlank (c : Char) : Bool := isBlank c && c != '\n' && c != '\r'

/-- The text without the characters of a class at its end. -/
def trimEnd (p : Char → Bool) (s : List Char) : List Char := (s.reverse.dropWhile p).reverse

/-- The text without the characters of a class at either end. -/
def trim (p : Char → Bool) (s : List Char) : List Char := trimEnd p (s.dropWhile p)

/-- The narrow class lies in the wide one. -/
theorem isBlank_of_isNarrowBlank {c : Char} (h : isNarrowBlank c = true) : isBlank c = true := by
  simp only [isNarrowBlank, isBlank, Bool.or_eq_true, Bool.and_eq_true, decide_eq_true_eq, beq_iff_eq] at h ⊢
  omega

end Keepalive.Text
