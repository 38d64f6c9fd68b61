/-!
# Line breaking classes

Where a line may be broken depends on the classes of the characters on both sides. The classes are
those of the Unicode line breaking algorithm and keep its two-letter names; letters, ambiguous and
unassigned characters share one class.
-/

namespace Assay.Text.LineBreak

/-- The line breaking class of a character. -/
inductive BreakClass where
  /-- Letters, and whatever has no other class. -/
  | al
  /-- Both sides may be broken at, but not between two of them. -/
  | b2
  /-- A break may follow: tabs, bars, some dashes. -/
  | ba
  /-- A break may come before. -/
  | bb
  /-- A break must follow: form feed, line and paragraph separator. -/
  | bk
  /-- An object of unknown kind. -/
  | cb
  /-- Closing punctuation. -/
  | cl
  /-- Combining marks and controls. -/
  | cm
  /-- Closing parentheses and brackets. -/
  | cp
  /-- Carriage return. -/
  | cr
  /-- The base of an emoji. -/
  | emojiBase
  /-- The modifier of an emoji. -/
  | emojiModifier
  /-- Exclamation and question marks. -/
  | ex
  /-- Non-breaking characters. -/
  | gl
  /-- Hangul syllables without a final. -/
  | h2
  /-- Hangul syllables with a final. -/
  | h3
  /-- Hebrew letters. -/
  | hl
  /-- The hyphen. -/
  | hy
  /-- Ideographs. -/
  | ideographic
  /-- Leaders that stay together. -/
  | inseparable
  /-- Separators inside numbers: point, comma, colon. -/
  | infixSep
  /-- Hangul initials. -/
  | jl
  /-- Hangul finals. -/
  | jt
  /-- Hangul vowels. -/
  | jv
  /-- Line feed. -/
  | lf
  /-- Next line. -/
  | nl
  /-- Characters that cannot start a line. -/
  | ns
  /-- Digits. -/
  | nu
  /-- Opening punctuation. -/
  | op
  /-- What follows a number: percent, degrees. -/
  | po
  /-- What comes before a number: currencies, signs. -/
  | pr
  /-- Quotation marks. -/
  | qu
  /-- Halves of a flag. -/
  | ri
  /-- The space. -/
  | sp
  /-- The slash. -/
  | sy
  /-- The word joiner. -/
  | wj
  /-- The zero width space. -/
  | zw
  /-- The zero width joiner. -/
  | zwj
deriving DecidableEq, Repr

end Assay.Text.LineBreak
