import Switchboard.Json.Basic
import Switchboard.Json.Reader.Strings

/-! # Strings are read back as they were written

The writer escapes a character or lets it stand for itself, and the reader works on bytes.
One lemma says what the reader makes of one written character, whatever has been read
before it and whatever comes behind; strings follow by induction over their characters.

* `Plain` — the bytes that stand for themselves inside a string;
* `stringBody_escape` — one character;
* `stringBody_quote` — a whole string.
-/

namespace Switchboard.Json

open Switchboard.Bytes (ascii ofChars)

/-! ## Bytes of characters -/

theorem ofChars_append (s t : List Char) : ofChars (s ++ t) = ofChars s ++ ofChars t :=
  List.flatMap_append

theorem ofChars_cons (c : Char) (s : List Char) :
    ofChars (c :: s) = String.utf8EncodeChar c ++ ofChars s :=
  List.flatMap_cons

theorem ofChars_singleton (c : Char) : ofChars [c] = String.utf8EncodeChar c := by
  simp [ofChars]

theorem encode_ascii {c : Char} (hc : c.toNat < 128) : String.utf8EncodeChar c = [ascii c] := by
  have hv : c.val.toNat ≤ 127 := Nat.le_of_lt_succ hc
  simp only [String.utf8EncodeChar, hv, if_true]
  rfl

/-- The bytes of a character beyond ASCII lie beyond ASCII. -/
theorem le_of_mem_encode {c : Char} (hc : 128 ≤ c.toNat) {b : UInt8}
    (hb : b ∈ String.utf8EncodeChar c) : 128 ≤ b.toNat := by
  have hv : ¬ c.val.toNat ≤ 127 := Nat.not_le.2 hc
  simp only [String.utf8EncodeChar, hv, if_false] at hb
  split at hb
  · simp only [List.mem_cons, List.not_mem_nil, or_false] at hb
    obtain rfl | rfl := hb <;> simp only [UInt8.toNat_ofNat'] <;> omega
  · split at hb
    · simp only [List.mem_cons, List.not_mem_nil, or_false] at hb
      obtain rfl | rfl | rfl := hb <;> simp only [UInt8.toNat_ofNat'] <;> omega
    · have hmax : c.val.toNat < 1114112 := by
        have := c.valid
        simp only [UInt32.isValidChar, Nat.isValidChar] at this
        omega
      simp only [List.mem_cons, List.not_mem_nil, or_false] at hb
      obtain rfl | rfl | rfl | rfl := hb <;> simp only [UInt8.toNat_ofNat'] <;> omega

/-! ## Bytes that stand for themselves -/

/-- Bytes that are neither a quote nor a backslash nor a control character. -/
def Plain (b : UInt8) : Prop := b ≠ ascii '"' ∧ b ≠ ascii '\\' ∧ 0x20 ≤ b.toNat

theorem stringBody_plain {bs : List UInt8} (hbs : ∀ b ∈ bs, Plain b) (done rest : List UInt8) :
    stringBody done (bs ++ rest) = stringBody (bs.reverse ++ done) rest := by
  induction bs generalizing done with
  | nil => rfl
  | cons b bs ih =>
    obtain ⟨⟨hquote, hslash, hcontrol⟩, hbs⟩ := List.forall_mem_cons.1 hbs
    rw [List.cons_append, stringBody, if_neg hquote, if_neg hslash, if_neg (by omega), ih hbs]
    simp

theorem plain_encode {c : Char} (hquote : c ≠ '"') (hslash : c ≠ '\\') (hcontrol : 0x20 ≤ c.toNat) :
    ∀ b ∈ String.utf8EncodeChar c, Plain b := by
  intro b hb
  by_cases hc : c.toNat < 128
  · rw [encode_ascii hc, List.mem_singleton] at hb
    have hbyte : b.toNat = c.toNat := by
      rw [hb, ascii, UInt8.toNat_ofNat']
      omega
    have hne : ∀ d : Char, d.toNat < 128 → c ≠ d → b ≠ ascii d := by
      intro d hd hcd heq
      apply hcd
      have hnat : c.toNat = d.toNat := by
        rw [← hbyte, heq, ascii, UInt8.toNat_ofNat']
        omega
      exact Char.toNat_inj.1 hnat
    exact ⟨hne '"' (by decide) hquote, hne '\\' (by decide) hslash, hbyte ▸ hcontrol⟩
  · -- a character beyond ASCII has no byte in ASCII
    have hb := le_of_mem_encode (by omega) hb
    refine ⟨?_, ?_, by omega⟩
    · rintro rfl
      exact absurd hb (by decide)
    · rintro rfl
      exact absurd hb (by decide)

/-! ## Escapes -/

theorem stringBody_escaped {t r : List UInt8} {c : Char} (h : escaped t = .ok (c, r))
    (done : List UInt8) :
    stringBody done (ascii '\\' :: t)
      = stringBody ((String.utf8EncodeChar c).reverse ++ done) r := by
  rw [stringBody, if_neg (by decide), if_pos rfl]
  split
  · rename_i e he
    rw [h] at he
    cases he
  · rename_i d u hd
    rw [h] at hd
    cases hd
    rfl

theorem fourDigits_control {n : Nat} (hn : n < 0x20) :
    fourDigits (ascii '0') (ascii '0') (ascii (Hex.digit (n / 16))) (ascii (Hex.digit (n % 16)))
      = some n := by
  decide +revert

/-- A character that has no escape of its own is written by its code. -/
theorem escaped_control {c : Char} (hc : c.toNat < 0x20) (rest : List UInt8) :
    escaped (ascii 'u' :: ascii '0' :: ascii '0' :: ascii (Hex.digit (c.toNat / 16)) ::
      ascii (Hex.digit (c.toNat % 16)) :: rest) = .ok (c, rest) := by
  have htrailing : isTrailing c.toNat = false := by simp [isTrailing]; omega
  have hleading : isLeading c.toNat = false := by simp [isLeading]; omega
  simp [escaped, unicodeEscape, hexUnit, fourDigits_control hc, htrailing, hleading]

/-- A character that is written as a backslash and a letter. -/
theorem stringBody_short {l c : Char} (hl : l.toNat < 128) (hc : shortEscape (ascii l) = some c)
    (done rest : List UInt8) :
    stringBody done (ofChars ['\\', l] ++ rest)
      = stringBody ((String.utf8EncodeChar c).reverse ++ done) rest := by
  have hu : ascii l ≠ ascii 'u' := by
    intro heq
    have hnone : shortEscape (ascii 'u') = none := by decide
    rw [heq, hnone] at hc
    cases hc
  have hescaped : escaped (ascii l :: rest) = .ok (c, rest) := by simp [escaped, hu, hc]
  rw [ofChars_cons, ofChars_cons, encode_ascii (by decide), encode_ascii hl]
  exact stringBody_escaped hescaped done

theorem ascii_digit_lt {n : Nat} (hn : n < 16) : (Hex.digit n).toNat < 128 := by
  decide +revert

/-- Whatever has been read before a character and whatever comes behind it, the reader takes
what the writer has made of it for the character. -/
theorem stringBody_escape (c : Char) (done rest : List UInt8) :
    stringBody done (ofChars (escape c) ++ rest)
      = stringBody ((String.utf8EncodeChar c).reverse ++ done) rest := by
  have hcode : ∀ d : Char, c.toNat = d.toNat → c = d := fun d => Char.toNat_inj.1
  unfold escape
  split
  · next hc =>
    subst hc
    exact stringBody_short (by decide) (by decide) done rest
  split
  · next hc =>
    subst hc
    exact stringBody_short (by decide) (by decide) done rest
  split
  · next hquote hslash hcontrol =>
    rw [ofChars_singleton]
    exact stringBody_plain (plain_encode hquote hslash hcontrol) done rest
  split
  · next hc =>
    subst hc
    exact stringBody_short (by decide) (by decide) done rest
  split
  · next hc =>
    subst hc
    exact stringBody_short (by decide) (by decide) done rest
  split
  · next hc =>
    subst hc
    exact stringBody_short (by decide) (by decide) done rest
  split
  · next hc =>
    obtain rfl := hcode '\x08' hc
    exact stringBody_short (by decide) (by decide) done rest
  split
  · next hc =>
    obtain rfl := hcode '\x0c' hc
    exact stringBody_short (by decide) (by decide) done rest
  · next hcontrol _ _ _ _ _ =>
    -- four digits, of which the first two are zeros
    have hc : c.toNat < 0x20 := by omega
    have hascii := ascii_digit_lt (n := c.toNat / 16) (by omega)
    have hascii' := ascii_digit_lt (n := c.toNat % 16) (by omega)
    simp only [ofChars_cons, encode_ascii hascii, encode_ascii hascii',
      encode_ascii (show '\\'.toNat < 128 by decide), encode_ascii (show 'u'.toNat < 128 by decide),
      encode_ascii (show '0'.toNat < 128 by decide)]
    exact stringBody_escaped (escaped_control hc rest) done

/-! ## Whole strings -/

theorem stringBody_chars (s : List Char) (done rest : List UInt8) :
    stringBody done (ofChars (s.flatMap escape) ++ rest)
      = stringBody ((ofChars s).reverse ++ done) rest := by
  induction s generalizing done with
  | nil => rfl
  | cons c s ih =>
    rw [List.flatMap_cons, ofChars_append, List.append_assoc, stringBody_escape, ih, ofChars_cons]
    simp

/-- A string is read back, and what comes behind its closing quote is left. -/
theorem stringBody_quote (s : String) (rest : List UInt8) :
    stringBody [] (ofChars (s.toList.flatMap escape ++ ['"']) ++ rest) = .ok (s, rest) := by
  have htext : Bytes.text? (ofChars s.toList) = some s := by
    rw [← Bytes.ofString_ofList, String.ofList_toList, Bytes.text?_ofString]
  have hquote : ofChars ['"'] = [ascii '"'] := by
    rw [ofChars_singleton, encode_ascii (by decide)]
  rw [ofChars_append, List.append_assoc, stringBody_chars, hquote, List.cons_append, stringBody,
    if_pos rfl]
  simp [textOf, htext]

end Switchboard.Json
