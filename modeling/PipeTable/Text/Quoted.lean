import PipeTable.Text.Category

/-!
# Numbers and quoted texts

Messages hold numbers and texts. A whole number is written in decimal digits, with a minus sign in
front of a negative one, and a code point in lower-case hexadecimal digits, as many as the place
asks for.

A text inside a message stands in quotes. Single quotes are the rule; double quotes are used when
the text itself holds a single quote and no double one, so that fewer characters need escaping.
Inside, the backslash, the quote in use and everything without a visible form are escaped.
-/

namespace PipeTable.Text

/-! ## Digits -/

/-- A natural number in decimal digits. -/
def ofNat (n : Nat) : Text := Nat.toDigits 10 n

/-- A whole number in decimal digits. -/
def ofInt (n : Int) : Text :=
  if n < 0 then '-' :: ofNat n.natAbs else ofNat n.natAbs

/-- The last `places` hexadecimal digits of a number, zeros in front included. -/
def hexDigits : Nat → Nat → Text
  | 0, _ => []
  | places + 1, n => hexDigits places (n / 16) ++ [Nat.digitChar (n % 16)]

/-- A number is written in as many digits as were asked for. -/
@[simp] theorem length_hexDigits (places n : Nat) : (hexDigits places n).length = places := by
  induction places generalizing n with
  | zero => rfl
  | succ places ih => simp [hexDigits, ih]

/-! ## Quotes -/

/-- The quote that surrounds a text. -/
def quoteMark (t : Text) : Char :=
  if t.contains '\'' && !t.contains '"' then '"' else '\''

/-- A character by its code point, in the shortest of the three escapes that can hold it. -/
def codePointEscape (c : Char) : Text :=
  if c.toNat < 0x100 then '\\' :: 'x' :: hexDigits 2 c.toNat
  else if c.toNat < 0x10000 then '\\' :: 'u' :: hexDigits 4 c.toNat
  else '\\' :: 'U' :: hexDigits 8 c.toNat

/-- A character as it stands between the given quotes. -/
def escapeChar (quote c : Char) : Text :=
  if c = quote || c = '\\' then ['\\', c]
  else if c = '\n' then ['\\', 'n']
  else if c = '\r' then ['\\', 'r']
  else if c = '\t' then ['\\', 't']
  else if isPrintable c then [c]
  else codePointEscape c

/-- A text in quotes. -/
def quoted (t : Text) : Text :=
  t.quoteMark :: t.flatMap (escapeChar t.quoteMark) ++ [t.quoteMark]

/-- A text of printable characters without quotes and backslashes is quoted as it is. -/
theorem quoted_of_plain {t : Text}
    (h : ∀ c ∈ t, isPrintable c = true ∧ c ≠ '\'' ∧ c ≠ '\\' ∧ c ≠ '\n' ∧ c ≠ '\r' ∧ c ≠ '\t') :
    t.quoted = '\'' :: t ++ ['\''] := by
  have hmark : t.quoteMark = '\'' := by
    have : '\'' ∉ t := fun hmem => (h _ hmem).2.1 rfl
    simp [quoteMark, this]
  have hbody : ∀ s : Text, (∀ c ∈ s, c ∈ t) → s.flatMap (escapeChar '\'') = s := by
    intro s hs
    induction s with
    | nil => rfl
    | cons c s ih =>
      obtain ⟨h₁, h₂, h₃, h₄, h₅, h₆⟩ := h c (hs c List.mem_cons_self)
      simp [escapeChar, h₁, h₂, h₃, h₄, h₅, h₆, ih fun d hd => hs d (List.mem_cons_of_mem _ hd)]
  simp [quoted, hmark, hbody t fun _ hc => hc]

end PipeTable.Text
