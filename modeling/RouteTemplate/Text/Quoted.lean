import RouteTemplate.Text.Printable

/-! # Quoted texts

Messages show a text between quotes, with escapes for everything that could be misread. A text that
holds an apostrophe and no quotation mark goes between quotation marks, every other text between
apostrophes. `newline_not_mem_quoted` says that a quoted text never breaks a line. -/
namespace RouteTemplate.Text

def apostrophe : Char := '\x27'

def quotationMark : Char := '\x22'

def backslash : Char := '\x5c'

def quoteFor (text : Text) : Char :=
  if text.contains apostrophe && !text.contains quotationMark then quotationMark else apostrophe

/-- Lowercase hexadecimal digits, filled up with zeros to at least `width`. -/
def hex (width n : Nat) : Text :=
  List.replicate (width - (Nat.toDigits 16 n).length) '0' ++ Nat.toDigits 16 n

/-- How a character is written between two `quote` marks. -/
def escaped (quote c : Char) : Text :=
  if c = quote ∨ c = backslash then [backslash, c]
  else if c = '\n' then [backslash, 'n']
  else if c = '\r' then [backslash, 'r']
  else if c = '\t' then [backslash, 't']
  else if isPrintable c then [c]
  else if c.toNat < 0x100 then backslash :: 'x' :: hex 2 c.toNat
  else if c.toNat < 0x10000 then backslash :: 'u' :: hex 4 c.toNat
  else backslash :: 'U' :: hex 8 c.toNat

def quoted (text : Text) : Text :=
  quoteFor text :: (text.flatMap (escaped (quoteFor text)) ++ [quoteFor text])

/-! ## A quoted text stays on its line -/

theorem quoteFor_ne_newline (text : Text) : quoteFor text ≠ '\n' := by
  unfold quoteFor
  split <;> decide

theorem digitChar_ne_newline (n : Nat) : Nat.digitChar n ≠ '\n' := by
  fun_cases Nat.digitChar n <;> decide

theorem newline_not_mem_toDigits (n : Nat) : '\n' ∉ Nat.toDigits 16 n := by
  induction n using Nat.strongRecOn with
  | ind n ih =>
      by_cases small : n < 16
      · rw [Nat.toDigits_of_lt_base small, List.mem_singleton]
        exact (digitChar_ne_newline n).symm
      · have smaller : n / 16 < n := by omega
        rw [Nat.toDigits_of_base_le (by decide) (by omega), List.mem_append, List.mem_singleton]
        rintro (member | member)
        · exact ih _ smaller member
        · exact digitChar_ne_newline _ member.symm

theorem newline_not_mem_hex (width n : Nat) : '\n' ∉ hex width n := by
  simp [hex, List.mem_replicate, newline_not_mem_toDigits]

theorem newline_not_mem_code {kind : Char} (visible : '\n' ≠ kind) (width n : Nat) :
    '\n' ∉ backslash :: kind :: hex width n := by
  have slash : '\n' ≠ backslash := by decide
  simp [slash, visible, newline_not_mem_hex]

theorem newline_not_mem_escaped {quote : Char} (visible : quote ≠ '\n') (c : Char) :
    '\n' ∉ escaped quote c := by
  fun_cases escaped quote c with
  | case1 special =>
      rcases special with rfl | rfl
      · simp [backslash, Ne.symm visible]
      · decide
  | case2 => decide
  | case3 => decide
  | case4 => decide
  | case5 _ plain => simp [Ne.symm plain]
  | case6 => exact newline_not_mem_code (by decide) _ _
  | case7 => exact newline_not_mem_code (by decide) _ _
  | case8 => exact newline_not_mem_code (by decide) _ _

theorem newline_not_mem_quoted (text : Text) : '\n' ∉ quoted text := by
  have visible := quoteFor_ne_newline text
  simp [quoted, Ne.symm visible, newline_not_mem_escaped visible]

end RouteTemplate.Text
