/-!
# Limits

The two bounds that the language sets on a program.
-/

namespace BlockForth

/-- How many frames may be nested inside the outermost one. -/
def maxDepth : Nat := 512

/-- The longest text, in bytes of its UTF-8 form, that a word may build by repetition. -/
def maxTextBytes : Nat := 256 * 1024 * 1024

end BlockForth
