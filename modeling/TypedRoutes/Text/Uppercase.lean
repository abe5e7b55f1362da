/-!
# Uppercase forms within ASCII

The full uppercase mapping of Unicode, as far as it leads to ASCII letters. Besides the small letters
these are a dotless i, the long s, the sharp s and the Latin ligatures, which open into two or three
capitals. Every other character keeps or gains a form outside ASCII, so a comparison with a word of
ASCII capitals needs no more of the mapping than this.
-/
namespace TypedRoutes.Text

/-- The uppercase form of a character, where that is written in ASCII letters; any other character
as it is. -/
def capitals (c : Char) : List Char :=
  if c = '\u00DF' then ['S', 'S']
  else if c = '\u0131' then ['I']
  else if c = '\u017F' then ['S']
  else if c = '\uFB00' then ['F', 'F']
  else if c = '\uFB01' then ['F', 'I']
  else if c = '\uFB02' then ['F', 'L']
  else if c = '\uFB03' then ['F', 'F', 'I']
  else if c = '\uFB04' then ['F', 'F', 'L']
  else if c = '\uFB05' ∨ c = '\uFB06' then ['S', 'T']
  else [c.toUpper]

end TypedRoutes.Text
