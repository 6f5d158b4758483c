import Switchboard.Base64

/-! # Bytes are read back from their digits

Three bytes make four digits and the other way round; two bytes or one at the end make a
digit more than they are, and the bits in it that stand for nothing are zero, as the reader
wants them.

* `Alphabet.Faithful` — every digit of an alphabet is read as the value that it was made for;
* `decode_encode` — bytes in such an alphabet;
* `forall_mem_encode` — what a text is made of.
-/

namespace Switchboard.Base64

/-- Every digit of an alphabet is read as the value that it was made for. -/
def Alphabet.Faithful (a : Alphabet) : Prop := ∀ n < 64, a.value (a.digit n) = some n

theorem faithful_urlSafe : Alphabet.urlSafe.Faithful := by
  unfold Alphabet.Faithful
  decide

theorem point_ne_digit : ∀ n < 64, '.' ≠ Alphabet.urlSafe.digit n := by decide

variable {a : Alphabet}

theorem decodeChars_encodeBytes (ha : a.Faithful) (bytes : List UInt8) :
    decodeChars a (encodeBytes a bytes) = some bytes := by
  fun_induction encodeBytes a bytes with
  | case1 x y z rest n ih =>
    have hx := x.toNat_lt
    have hy := y.toNat_lt
    have hz := z.toNat_lt
    have hjoined : ((n / 262144 * 64 + n / 4096 % 64) * 64 + n / 64 % 64) * 64 + n % 64 = n := by
      omega
    have hfirst : n / 65536 = x.toNat := by omega
    have hsecond : n / 256 % 256 = y.toNat := by omega
    have hthird : n % 256 = z.toNat := by omega
    simp [decodeChars, ha (n / 262144) (by omega), ha (n / 4096 % 64) (by omega),
      ha (n / 64 % 64) (by omega), ha (n % 64) (by omega), hjoined, ih, hfirst, hsecond, hthird]
  | case2 x y n =>
    have hx := x.toNat_lt
    have hy := y.toNat_lt
    have hjoined : (n / 4096 * 64 + n / 64 % 64) * 64 + n % 64 = n := by omega
    have hspare : n % 4 = 0 := by omega
    have hfirst : n / 1024 = x.toNat := by omega
    have hsecond : n / 4 % 256 = y.toNat := by omega
    simp [decodeChars, ha (n / 4096) (by omega), ha (n / 64 % 64) (by omega),
      ha (n % 64) (by omega), hjoined, hspare, hfirst, hsecond]
  | case3 x =>
    have hx := x.toNat_lt
    have hspare : (x.toNat / 4 * 64 + x.toNat % 4 * 16) % 16 = 0 := by omega
    have hfirst : (x.toNat / 4 * 64 + x.toNat % 4 * 16) / 16 = x.toNat := by omega
    simp only [decodeChars, ha (x.toNat / 4) (by omega), ha (x.toNat % 4 * 16) (by omega),
      Option.bind_eq_bind, Option.bind_some, hspare, hfirst, if_true, UInt8.ofNat_toNat]
  | case4 => rfl

theorem decode_encode (ha : a.Faithful) (bytes : List UInt8) :
    decode a (encode a bytes) = some bytes := by
  rw [decode, encode, String.toList_ofList, decodeChars_encodeBytes ha]

theorem forall_mem_encodeBytes {P : Char → Prop} (hP : ∀ n < 64, P (a.digit n))
    (bytes : List UInt8) : ∀ c ∈ encodeBytes a bytes, P c := by
  fun_induction encodeBytes a bytes with
  | case1 x y z rest n ih =>
    have hx := x.toNat_lt
    have hy := y.toNat_lt
    have hz := z.toNat_lt
    simp only [List.forall_mem_cons]
    exact ⟨hP _ (by omega), hP _ (by omega), hP _ (by omega), hP _ (by omega), ih⟩
  | case2 x y n =>
    have hx := x.toNat_lt
    have hy := y.toNat_lt
    simp only [List.forall_mem_cons, List.not_mem_nil, false_imp_iff, implies_true, and_true]
    exact ⟨hP _ (by omega), hP _ (by omega), hP _ (by omega)⟩
  | case3 x =>
    have hx := x.toNat_lt
    simp only [List.forall_mem_cons, List.not_mem_nil, false_imp_iff, implies_true, and_true]
    exact ⟨hP _ (by omega), hP _ (by omega)⟩
  | case4 => simp

/-- What holds of the digits of an alphabet holds of all characters of a text of it. -/
theorem forall_mem_encode {P : Char → Prop} (hP : ∀ n < 64, P (a.digit n)) (bytes : List UInt8) :
    ∀ c ∈ (encode a bytes).toList, P c := by
  rw [encode, String.toList_ofList]
  exact forall_mem_encodeBytes hP bytes

end Switchboard.Base64
