import ExperimentQuery.Credentials

/-!
# Sealed bytes opened again

Base 64 gives back the bytes that were written, also from a text with white space around it. Bytes
that are combined twice with one key stream are what they were, so that Galois counter mode opens
what it sealed, and it opens nothing else.

* `Base64.decode?_encode`, **`Base64.read?_text`**: base 64 read back;
* `Bytes.mask_mask`, `Gcm.crypt_crypt`: a key stream applied twice;
* **`Gcm.openBytes?_eq_some_iff`**: what is opened is what was sealed;
* `openText_of_read?`, **`openText_sealedText`**: a text opened.
-/

namespace ExperimentQuery

/-! ## Base 64 -/

theorem Bytes.ofNat_eq {n : Nat} {x : UInt8} (h : n % 256 = x.toNat) : UInt8.ofNat n = x :=
  UInt8.toNat_inj.mp (UInt8.toNat_ofNat'.trans h)

namespace Base64

theorem digit_ne_pad {n : Nat} (hn : n < 64) : digit n ≠ '=' := by
  intro heq
  have hvalue := value?_digit n hn
  rw [heq] at hvalue
  exact absurd hvalue (by decide +revert)

theorem not_isBlank_digit : ∀ n < 64, Unicode.isBlank (digit n) = false := by decide

theorem lastOne?_digit (x : UInt8) :
    lastOne? (digit (x.toNat * 16 / 64)) (digit (x.toNat * 16 % 64)) = some [x] := by
  have hx := x.toNat_lt
  rw [lastOne?, value?_digit _ (by omega), value?_digit _ (by omega)]
  have hn : x.toNat * 16 / 64 * 64 + x.toNat * 16 % 64 = x.toNat * 16 := by omega
  simp [hn]

theorem lastTwo?_digit (x y : UInt8) :
    let n := (x.toNat * 256 + y.toNat) * 4
    lastTwo? (digit (n / 4096)) (digit (n / 64 % 64)) (digit (n % 64)) = some [x, y] := by
  intro n
  have hx := x.toNat_lt
  have hy := y.toNat_lt
  have hn : (n / 4096 * 64 + n / 64 % 64) * 64 + n % 64 = n := by omega
  have hfirst : UInt8.ofNat (n / 1024) = x := Bytes.ofNat_eq (by omega)
  have hsecond : UInt8.ofNat (n / 4) = y := Bytes.ofNat_eq (by omega)
  rw [lastTwo?, value?_digit _ (by omega), value?_digit _ (by omega), value?_digit _ (by omega)]
  have hzero : n % 4 = 0 := by omega
  simp [hn, hfirst, hsecond, hzero]

theorem group?_digit {n : Nat} (hn : n < 16777216) :
    group? (digit (n / 262144)) (digit (n / 4096 % 64)) (digit (n / 64 % 64)) (digit (n % 64)) =
      some n := by
  rw [group?, value?_digit _ (by omega), value?_digit _ (by omega), value?_digit _ (by omega),
    value?_digit _ (by omega)]
  have hsum : ((n / 262144 * 64 + n / 4096 % 64) * 64 + n / 64 % 64) * 64 + n % 64 = n := by omega
  exact congrArg some hsum

theorem decode?_group {a b c d : Char} {rest : List Char} (hd : d ≠ '=') :
    decode? (a :: b :: c :: d :: rest) = (group? a b c d).bind fun n => (decode? rest).bind fun bs =>
      some (UInt8.ofNat (n / 65536) :: UInt8.ofNat (n / 256) :: UInt8.ofNat n :: bs) := by
  rw [decode?]
  · rfl
  · exact fun _ heq => absurd heq hd
  · exact fun heq => absurd heq hd

theorem decode?_encode (bs : Bytes) : decode? (encode bs) = some bs := by
  fun_induction encode bs with
  | case1 => rfl
  | case2 x n => exact lastOne?_digit x
  | case3 x y n =>
    have hpad : digit (n % 64) ≠ '=' := digit_ne_pad (Nat.mod_lt n (by decide))
    rw [decode?]
    · exact lastTwo?_digit x y
    · exact hpad
  | case4 x y z rest n ih =>
    have hx := x.toNat_lt
    have hy := y.toNat_lt
    have hz := z.toNat_lt
    have hfirst : UInt8.ofNat (n / 65536) = x := Bytes.ofNat_eq (by omega)
    have hsecond : UInt8.ofNat (n / 256) = y := Bytes.ofNat_eq (by omega)
    have hthird : UInt8.ofNat n = z := Bytes.ofNat_eq (by omega)
    have hn : n < 16777216 := by omega
    rw [decode?_group (digit_ne_pad (Nat.mod_lt n (by decide))), group?_digit hn, ih]
    simp [hfirst, hsecond, hthird]

theorem not_isBlank_of_mem_encode {bs : Bytes} {c : Char} (hc : c ∈ encode bs) :
    Unicode.isBlank c = false := by
  have hpad : Unicode.isBlank '=' = false := by decide
  fun_induction encode bs with
  | case1 => cases hc
  | case2 x n =>
    have hx := x.toNat_lt
    simp only [List.mem_cons, List.not_mem_nil, or_false] at hc
    rcases hc with rfl | rfl | rfl | rfl
    all_goals first | exact hpad | exact not_isBlank_digit _ (by omega)
  | case3 x y n =>
    have hx := x.toNat_lt
    have hy := y.toNat_lt
    simp only [List.mem_cons, List.not_mem_nil, or_false] at hc
    rcases hc with rfl | rfl | rfl | rfl
    all_goals first | exact hpad | exact not_isBlank_digit _ (by omega)
  | case4 x y z rest n ih =>
    have hx := x.toNat_lt
    have hy := y.toNat_lt
    have hz := z.toNat_lt
    simp only [List.mem_cons] at hc
    rcases hc with rfl | rfl | rfl | rfl | hc
    all_goals first | exact ih hc | exact not_isBlank_digit _ (by omega)

/-- **Base 64 is read back**, with white space around it. -/
theorem read?_text {before after : String} (hbefore : before.toList.all Unicode.isBlank)
    (hafter : after.toList.all Unicode.isBlank) (bs : Bytes) :
    read? (before ++ text bs ++ after) = some bs := by
  have hblank : ∀ o : Option Char, (∀ c ∈ o, c ∈ encode bs) → ¬o.any Unicode.isBlank := by
    rintro (_ | c) h
    · simp
    · simpa using not_isBlank_of_mem_encode (h c rfl)
  rw [read?, String.toList_append, String.toList_append, text, String.toList_ofList,
    Text.trimChars_between (List.all_eq_true.mp hbefore) (List.all_eq_true.mp hafter)
      (hblank _ fun c hc => List.mem_of_mem_head? hc)
      (hblank _ fun c hc => List.mem_of_mem_getLast? hc), decode?_encode]

end Base64

/-! ## The key stream -/

theorem Bytes.mask_mask {keys bs : Bytes} (h : bs.length ≤ keys.length) :
    mask keys (mask keys bs) = bs := by
  induction bs generalizing keys with
  | nil => rfl
  | cons b bs ih =>
    cases keys with
    | nil => exact absurd h (Nat.not_succ_le_zero _)
    | cons k keys =>
      have hbyte : b ^^^ k ^^^ k = b := by rw [UInt8.xor_assoc, UInt8.xor_self, UInt8.xor_zero]
      rw [mask, mask, List.zipWith_cons_cons, List.zipWith_cons_cons, hbyte]
      exact congrArg (b :: ·) (ih (Nat.le_of_succ_le_succ h))

namespace Gcm

open Aes (Block)

variable (cipher : Block → Block)

@[simp]
theorem length_stream (count : Nat) (c : Block) : (stream cipher count c).length = 16 * count := by
  induction count generalizing c with
  | zero => rfl
  | succ count ih =>
    rw [stream, List.length_append, ih, Block.bytes, Bytes.length_ofNat]
    omega

@[simp]
theorem length_crypt (c : Block) (bs : Bytes) : (crypt cipher c bs).length = bs.length := by
  rw [crypt, Bytes.length_mask, length_stream]
  omega

/-- **A key stream applied twice** leaves bytes as they were. -/
theorem crypt_crypt (c : Block) (bs : Bytes) : crypt cipher c (crypt cipher c bs) = bs := by
  rw [crypt, length_crypt, crypt]
  refine Bytes.mask_mask ?_
  rw [length_stream]
  omega

@[simp]
theorem length_tag (nonce text : Bytes) : (tag cipher nonce text).length = 16 :=
  Bytes.length_ofNat _ _

theorem openBytes?_append (nonce text mark : Bytes) (hmark : mark.length = 16) :
    openBytes? cipher nonce (text ++ mark) =
      if mark = tag cipher nonce text then
        some (crypt cipher (nextCounter (firstCounter nonce)) text)
      else none := by
  have hlength : (text ++ mark).length - 16 = text.length := by
    rw [List.length_append, hmark, Nat.add_sub_cancel]
  have hlong : 16 ≤ (text ++ mark).length := by
    rw [List.length_append, hmark]
    exact Nat.le_add_left _ _
  rw [openBytes?, hlength]
  simp only [List.take_left', List.drop_left', hlong, true_and]

theorem sealBytes_ne_nil (nonce plain : Bytes) : sealBytes cipher nonce plain ≠ [] :=
  List.ne_nil_of_length_pos (by simp [sealBytes])

/-- **What is opened is what was sealed.** -/
theorem openBytes?_eq_some_iff {nonce bs plain : Bytes} :
    openBytes? cipher nonce bs = some plain ↔ bs = sealBytes cipher nonce plain := by
  constructor
  · intro h
    have hlong : 16 ≤ bs.length := by
      rw [openBytes?] at h
      split at h
      · next hfits => exact hfits.1
      · cases h
    have hmark : (bs.drop (bs.length - 16)).length = 16 := by
      rw [List.length_drop]
      omega
    rw [← List.take_append_drop (bs.length - 16) bs, openBytes?_append _ _ _ _ hmark] at h
    split at h
    · next hfits =>
      cases h
      rw [sealBytes, crypt_crypt, ← hfits, List.take_append_drop]
    · cases h
  · rintro rfl
    rw [sealBytes, openBytes?_append _ _ _ _ (length_tag _ _ _), if_pos rfl, crypt_crypt]

end Gcm

/-! ## Sealed texts -/

section

variable {key : Key} {text : String} {nonce bs : Bytes}

theorem openText_of_read? (h : Base64.read? text = some (nonce ++ bs))
    (hnonce : nonce.length = nonceLength) (hbs : bs ≠ []) :
    openText key text =
      (Gcm.openBytes? (Aes.encrypt key.bytes) nonce bs).elim (.error .decryptionFailed) .ok := by
  have hlong : ¬(nonce ++ bs).length ≤ nonceLength := by
    have hpos := List.length_pos_iff.mpr hbs
    rw [List.length_append]
    omega
  simp only [openText, h, if_neg hlong, List.take_left' hnonce, List.drop_left' hnonce]
  cases Gcm.openBytes? (Aes.encrypt key.bytes) nonce bs <;> rfl

/-- **A sealed text is opened**, with white space around it. -/
theorem openText_sealedText {before after : String} (hbefore : before.toList.all Unicode.isBlank)
    (hafter : after.toList.all Unicode.isBlank) (nonce : Nonce) (plain : Bytes) :
    openText key (before ++ sealedText key nonce plain ++ after) = .ok plain := by
  have hread := Base64.read?_text hbefore hafter
    (nonce.bytes ++ Gcm.sealBytes (Aes.encrypt key.bytes) nonce.bytes plain)
  rw [sealedText, openText_of_read? hread (Bytes.length_ofNat _ _) (Gcm.sealBytes_ne_nil _ _ _),
    (Gcm.openBytes?_eq_some_iff _).mpr rfl, Option.elim_some]

end

end ExperimentQuery
