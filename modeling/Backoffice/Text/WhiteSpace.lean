/-! # White space

The characters of the Unicode `White_Space` property, and trimming them from both ends of a
text.

* **`isWhiteSpace`** — membership in `White_Space`: the ASCII tab, line feed, vertical tab, form
  feed, carriage return and space, next line, no-break space, ogham space mark, the spaces from
  en quad to hair space, line and paragraph separators, narrow no-break space, medium
  mathematical space and ideographic space.
* **`trimWhiteSpace`** — a text without the white space at its two ends. -/

namespace Backoffice

namespace Text

/-- **A white-space character** in the sense of the Unicode `White_Space` property. -/
def isWhiteSpace (c : Char) : Bool :=
  let n := c.toNat
  (0x09 ≤ n && n ≤ 0x0D) || n == 0x20 || n == 0x85 || n == 0xA0 || n == 0x1680 ||
    (0x2000 ≤ n && n ≤ 0x200A) || n == 0x2028 || n == 0x2029 || n == 0x202F || n == 0x205F ||
    n == 0x3000

/-- **Trim white space** from both ends of a text. -/
def trimWhiteSpace (s : String) : String :=
  String.ofList ((s.toList.dropWhile isWhiteSpace).reverse.dropWhile isWhiteSpace).reverse

/-- Every character core counts as white space is white space here. -/
theorem isWhiteSpace_of_isWhitespace (c : Char) (h : c.isWhitespace = true) :
    isWhiteSpace c = true := by
  simp only [Char.isWhitespace, Bool.or_eq_true, decide_eq_true_eq] at h
  simp only [isWhiteSpace, Bool.or_eq_true, Bool.and_eq_true, beq_iff_eq, decide_eq_true_eq]
  rcases h with ((h | h) | h) | h <;> subst h <;> decide

example : trimWhiteSpace "　 a b\t\n" = "a b" := by decide

end Text

end Backoffice
