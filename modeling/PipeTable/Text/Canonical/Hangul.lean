import PipeTable.Text.Basic

/-!
# Hangul syllables

The 11172 Hangul syllables are arranged so that the letters of a syllable are the digits of its
distance from the first one: a leading consonant, a vowel, and a trailing consonant or none.
Composition and decomposition are arithmetic on that number.
-/

namespace PipeTable.Canonical.Hangul

/-- The first syllable. -/
def syllableBase : Nat := 0xAC00

/-- The first leading consonant. -/
def leadBase : Nat := 0x1100

/-- The first vowel. -/
def vowelBase : Nat := 0x1161

/-- The place before the first trailing consonant, which stands for having none. -/
def trailBase : Nat := 0x11A7

/-- The letters that a syllable consists of; none if the character is no syllable. -/
def letters? (c : Char) : Option Text :=
  let index := c.toNat - syllableBase
  if syllableBase ≤ c.toNat && index < 19 * 21 * 28 then
    let lead := Char.ofNat (leadBase + index / (21 * 28))
    let vowel := Char.ofNat (vowelBase + index % (21 * 28) / 28)
    if index % 28 = 0 then some [lead, vowel]
    else some [lead, vowel, Char.ofNat (trailBase + index % 28)]
  else none

/-- The syllable of a leading consonant and a vowel, or of an open syllable and a trailing
consonant. -/
def syllable? (first second : Char) : Option Char :=
  let lead := first.toNat - leadBase
  let vowel := second.toNat - vowelBase
  let index := first.toNat - syllableBase
  let trail := second.toNat - trailBase
  if leadBase ≤ first.toNat && lead < 19 && vowelBase ≤ second.toNat && vowel < 21 then
    some (Char.ofNat (syllableBase + (lead * 21 + vowel) * 28))
  else if syllableBase ≤ first.toNat && index < 19 * 21 * 28 && index % 28 == 0 &&
      trailBase < second.toNat && trail < 28 then
    some (Char.ofNat (first.toNat + trail))
  else none

end PipeTable.Canonical.Hangul
