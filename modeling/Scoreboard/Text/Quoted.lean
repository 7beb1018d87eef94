import Scoreboard.Text.Printable

/-!
# Quoted text

The form in which a message names a text or a byte string: between single quotes, or between double
ones where the text holds a single quote and no double one. A backslash stands before what the quotes
cannot hold, and what is not printable is written by its code.
-/

namespace Scoreboard

/-- The last hexadecimal digits of a number, as many as the width. -/
def hexDigits : Nat → Nat → Text
  | 0, _ => []
  | width + 1, n => hexDigits width (n / 16) ++ [Nat.digitChar (n % 16)]

/-- The code of a character, in the shortest of the three forms that can hold it. -/
def codeEscape (code : Nat) : Text :=
  if code < 0x100 then '\\' :: 'x' :: hexDigits 2 code
  else if code < 0x10000 then '\\' :: 'u' :: hexDigits 4 code
  else '\\' :: 'U' :: hexDigits 8 code

/-- A character between quotes, where those that are shown stand for themselves. -/
def quotedChar (shown : Char → Bool) (quote c : Char) : Text :=
  if c = quote ∨ c = '\\' then ['\\', c]
  else if c = '\t' then ['\\', 't']
  else if c = '\n' then ['\\', 'n']
  else if c = '\r' then ['\\', 'r']
  else if shown c then [c]
  else codeEscape c.toNat

def quoteFor (text : Text) : Char :=
  if text.contains '\'' && !text.contains '"' then '"' else '\''

def quotedWith (shown : Char → Bool) (text : Text) : Text :=
  let quote := quoteFor text
  quote :: text.flatMap (quotedChar shown quote) ++ [quote]

/-- A text shows all printable characters, whatever their script. -/
def Text.quoted (text : Text) : Text := quotedWith isPrintable text

def byteChars (bytes : List UInt8) : Text := bytes.map fun byte => Char.ofNat byte.toNat

/-- A byte string shows the printable characters of ASCII alone. -/
def quotedBytes (bytes : List UInt8) : Text := 'b' :: quotedWith isAsciiPrintable (byteChars bytes)

/-! ## What is quoted is printable -/

theorem isAsciiPrintable_of_mem_hexDigits {width n : Nat} {c : Char} (h : c ∈ hexDigits width n) :
    isAsciiPrintable c = true := by
  have hdigit : ∀ d < 16, isAsciiPrintable (Nat.digitChar d) = true := by decide
  induction width generalizing n with
  | zero => cases h
  | succ width ih =>
      rcases List.mem_append.1 h with higher | last
      · exact ih higher
      · rw [List.mem_singleton.1 last]
        exact hdigit _ (Nat.mod_lt n (by decide))

theorem isAsciiPrintable_of_mem_codeEscape {code : Nat} {c : Char} (h : c ∈ codeEscape code) :
    isAsciiPrintable c = true := by
  have hform (form : Char) (hprintable : isAsciiPrintable form = true) {width : Nat}
      (h : c ∈ '\\' :: form :: hexDigits width code) : isAsciiPrintable c = true := by
    rcases List.mem_cons.1 h with rfl | h
    · rfl
    · rcases List.mem_cons.1 h with rfl | hdigits
      · exact hprintable
      · exact isAsciiPrintable_of_mem_hexDigits hdigits
  unfold codeEscape at h
  split at h
  · exact hform 'x' rfl h
  · split at h
    · exact hform 'u' rfl h
    · exact hform 'U' rfl h

section Shown

variable {shown : Char → Bool} (ascii : ∀ c, isAsciiPrintable c = true → shown c = true)

include ascii

theorem shown_of_mem_quotedChar {quote c d : Char} (hquote : shown quote = true)
    (h : d ∈ quotedChar shown quote c) : shown d = true := by
  have hpair (second : Char) (hsecond : shown second = true) (h : d ∈ ['\\', second]) :
      shown d = true := by
    rcases List.mem_cons.1 h with rfl | h
    · exact ascii _ rfl
    · rw [List.mem_singleton.1 h, hsecond]
  unfold quotedChar at h
  split at h
  case isTrue hmark =>
    rcases hmark with rfl | rfl
    · exact hpair _ hquote h
    · exact hpair _ (ascii _ rfl) h
  split at h
  · exact hpair 't' (ascii _ rfl) h
  split at h
  · exact hpair 'n' (ascii _ rfl) h
  split at h
  · exact hpair 'r' (ascii _ rfl) h
  split at h
  case isTrue hshown => rw [List.mem_singleton.1 h, hshown]
  case isFalse => exact ascii d (isAsciiPrintable_of_mem_codeEscape h)

theorem shown_of_mem_quotedWith {text : Text} {c : Char} (h : c ∈ quotedWith shown text) :
    shown c = true := by
  have hquote : shown (quoteFor text) = true := by
    apply ascii
    unfold quoteFor
    split <;> rfl
  rcases List.mem_append.1 h with h | hlast
  · rcases List.mem_cons.1 h with rfl | hinside
    · exact hquote
    · obtain ⟨d, -, hd⟩ := List.mem_flatMap.1 hinside
      exact shown_of_mem_quotedChar ascii hquote hd
  · rw [List.mem_singleton.1 hlast, hquote]

end Shown

theorem isPrintable_of_mem_quoted {text : Text} {c : Char} (h : c ∈ text.quoted) :
    isPrintable c = true :=
  shown_of_mem_quotedWith (fun _ => isPrintable_of_isAsciiPrintable) h

/-- A space of no width, a private character beyond the first plane and a letter. -/
example : Text.quoted [Char.ofNat 0x200B, Char.ofNat 0xF0000, Char.ofNat 0xE9] =
    "'\\u200b\\U000f0000".toList ++ [Char.ofNat 0xE9, '\''] := by
  decide +kernel

theorem isAsciiPrintable_of_mem_quotedBytes {bytes : List UInt8} {c : Char}
    (h : c ∈ quotedBytes bytes) : isAsciiPrintable c = true := by
  rcases List.mem_cons.1 h with rfl | hquoted
  · rfl
  · exact shown_of_mem_quotedWith (fun _ => id) hquoted

end Scoreboard
