/-!
# White space

The characters with the Unicode property `White_Space`, and trimming them off the ends of a text.
-/

namespace FeatureFlags.Text

/-- Membership in the Unicode property `White_Space`. -/
def isBlank (c : Char) : Bool :=
  let n := c.toNat
  (9 ≤ n && n ≤ 13) || n = 0x20 || n = 0x85 || n = 0xA0 || n = 0x1680 ||
    (0x2000 ≤ n && n ≤ 0x200A) || n = 0x2028 || n = 0x2029 || n = 0x202F || n = 0x205F ||
    n = 0x3000

/-- Removes blank characters from the front. -/
def trimStart (text : List Char) : List Char := text.dropWhile isBlank

/-- Removes blank characters from the end. -/
def trimEnd (text : List Char) : List Char := (text.reverse.dropWhile isBlank).reverse

/-- Removes blank characters from both ends. -/
def trim (text : List Char) : List Char := trimEnd (trimStart text)

/-- Trimming takes no notice of a blank character at the end. -/
theorem trim_concat {c : Char} (hblank : isBlank c = true) (text : List Char) :
    trim (text ++ [c]) = trim text := by
  have htrimEnd (part : List Char) : trimEnd (part ++ [c]) = trimEnd part := by
    simp only [trimEnd, List.reverse_append, List.reverse_singleton, List.singleton_append,
      List.dropWhile_cons_of_pos hblank]
  unfold trim trimStart
  rw [List.dropWhile_append]
  split
  · rename_i hempty
    rw [List.isEmpty_iff.mp hempty, List.dropWhile_cons_of_pos hblank, List.dropWhile_nil]
  · exact htrimEnd _

end FeatureFlags.Text
