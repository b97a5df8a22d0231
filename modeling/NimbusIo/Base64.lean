/-
  NimbusIo.Base64

  `base64.b64decode`, which the web server applies to the
  `segment-md5-digest` of a retrieve reply.  Under Python 2 it is
  `binascii.a2b_base64`: a loop over the characters that skips what is not
  a base64 digit, ends at a pad that closes a quad, and fails with
  "Incorrect padding" when bits are left over.  The loop is modelled as
  CPython's C code has it (`quad_pos`, `leftchar`, `leftbits`); the
  failure is raised again as `TypeError`.

  The main result reads back what `b64encode` (`Wire`) writes.  Its proof
  follows the number the loop has read, six bits a digit: `bits` is
  multiplied by 64 and the digit added at each step, and the bytes written
  are those of that number once no bits are over.
-/
import NimbusIo.Wire

namespace NimbusIo

-- ============================================================================
-- The decoder
-- ============================================================================

/-- The code point of the base64 digit of value `i < 64`. -/
def b64Code (i : Nat) : Nat :=
  if i < 26 then 65 + i else if i < 52 then 71 + i else if i < 62 then i - 4
  else if i = 62 then 43 else 47

/-- `table_a2b_base64`: the value of the base64 digit with code point `n`. -/
def a2bTable (n : Nat) : Option Nat :=
  if 65 ≤ n ∧ n ≤ 90 then some (n - 65)
  else if 97 ≤ n ∧ n ≤ 122 then some (n - 71)
  else if 48 ≤ n ∧ n ≤ 57 then some (n + 4)
  else if n = 43 then some 62
  else if n = 47 then some 63
  else none

/-- Whether `binascii` reads `c` at all: a base64 digit or the pad `=`. -/
def b64Valid (c : Char) : Bool := c = '=' ∨ (a2bTable c.toNat).isSome

/-- `binascii_find_valid(s, len, 0)`: the first character of `s` that is a
    digit or `=`. -/
def nextValid : List Char → Option Char
  | [] => none
  | c :: s => if b64Valid c then some c else nextValid s

/-- The variables of `binascii.a2b_base64`'s loop; `out` is what it has
    written to `bin_data`. -/
structure A2bState where
  quadPos : Nat
  leftchar : Nat
  leftbits : Nat
  out : Bytes
  deriving DecidableEq, Repr

/-- One digit of value `v` shifted in on the low end; a byte is written
    once eight bits are in. -/
def A2bState.shift (st : A2bState) (v : Nat) : A2bState :=
  let leftchar := st.leftchar * 64 + v
  let leftbits := st.leftbits + 6
  if 8 ≤ leftbits then
    ⟨(st.quadPos + 1) % 4, leftchar % 2 ^ (leftbits - 8), leftbits - 8,
      st.out ++ [UInt8.ofNat (leftchar / 2 ^ (leftbits - 8))]⟩
  else ⟨(st.quadPos + 1) % 4, leftchar, leftbits, st.out⟩

/-- The loop of `binascii.a2b_base64`: non-ASCII characters, `\r`, `\n`,
    blanks and other characters outside the alphabet are skipped, and so is
    a pad early in a quad; a pad that closes a quad ends the input. -/
def a2bLoop (st : A2bState) : List Char → A2bState
  | [] => st
  | c :: s =>
    if 0x7f < c.toNat ∨ c = '\r' ∨ c = '\n' ∨ c = ' ' then a2bLoop st s
    else if c = '=' then
      if st.quadPos < 2 ∨ (st.quadPos = 2 ∧ nextValid s ≠ some '=') then a2bLoop st s
      else { st with leftbits := 0 }
    else match a2bTable c.toNat with
      | none => a2bLoop st s
      | some v => a2bLoop (st.shift v) s

/-- `base64.b64decode`: `binascii.Error` ("Incorrect padding") when bits
    are left over, raised again as `TypeError`. -/
def b64decode (s : String) : Except PyError Bytes :=
  let st := a2bLoop ⟨0, 0, 0, []⟩ s.data
  if st.leftbits = 0 then .ok st.out else .error .typeError

-- ============================================================================
-- The digits `b64encode` writes
-- ============================================================================

theorem b64Alphabet_codes : b64Alphabet.map Char.toNat = (List.range 64).map b64Code := by decide

theorem toNat_b64Digit (n : Nat) : (b64Digit n).toNat = b64Code (n % 64) := by
  have hi := Nat.mod_lt n (by decide : 64 > 0)
  have h := congrArg (fun l => l.getD (n % 64) 0) b64Alphabet_codes
  simp only at h
  rw [List.getD_eq_getElem _ _ (by simpa using hi), List.getD_eq_getElem _ _ (by simpa using hi),
    List.getElem_map, List.getElem_map, List.getElem_range] at h
  rwa [b64Digit, List.getD_eq_getElem _ _ (by simpa using hi)]

theorem b64Code_table : ∀ i < 64, a2bTable (b64Code i) = some i ∧
    43 ≤ b64Code i ∧ b64Code i ≤ 122 ∧ b64Code i ≠ 61 := by
  decide

/-- The loop reads a digit `b64encode` writes as its value. -/
theorem a2bLoop_b64Digit (st : A2bState) (n : Nat) (s : List Char) :
    a2bLoop st (b64Digit n :: s) = a2bLoop (st.shift (n % 64)) s := by
  obtain ⟨hv, hr⟩ := b64Code_table _ (Nat.mod_lt n (by decide))
  rw [← toNat_b64Digit] at hv hr
  have hne : ∀ c : Char, c.toNat < 43 ∨ c.toNat = 61 → b64Digit n ≠ c :=
    fun c hc h => by rw [h] at hr; omega
  rw [a2bLoop, if_neg (by
      rintro (h | h | h | h)
      · omega
      all_goals exact hne _ (by simp) h),
    if_neg (hne '=' (by simp)), hv]

/-- `b64encode` writes only ASCII: its digits and the pad. -/
theorem b64Chars_ascii (bs : List UInt8) : ∀ c ∈ b64Chars bs, c.toNat < 128 := by
  have hd : ∀ n, (b64Digit n).toNat < 128 := fun n => by
    have := (b64Code_table _ (Nat.mod_lt n (by decide))).2.2.1
    rw [toNat_b64Digit]; omega
  induction bs using b64Chars.induct with
  | case1 a b c rest ih =>
    simp only [b64Chars, List.forall_mem_cons]
    exact ⟨hd _, hd _, hd _, hd _, ih⟩
  | case2 a b => simp [b64Chars, hd]
  | case3 a => simp [b64Chars, hd]
  | case4 => simp [b64Chars]

-- ============================================================================
-- What the loop has read
-- ============================================================================

theorem A2bState.shift_of_lt {st : A2bState} (h : st.leftbits < 2) (v : Nat) :
    st.shift v = ⟨(st.quadPos + 1) % 4, st.leftchar * 64 + v, st.leftbits + 6, st.out⟩ :=
  if_neg (by omega)

theorem A2bState.shift_of_le {st : A2bState} (h : 2 ≤ st.leftbits) (v : Nat) :
    st.shift v = ⟨(st.quadPos + 1) % 4, (st.leftchar * 64 + v) % 2 ^ (st.leftbits - 2),
      st.leftbits - 2, st.out ++ [UInt8.ofNat ((st.leftchar * 64 + v) / 2 ^ (st.leftbits - 2))]⟩ := by
  rw [A2bState.shift, if_pos (by omega), show st.leftbits + 6 - 8 = st.leftbits - 2 by omega]

@[simp] theorem A2bState.shift_quadPos (st : A2bState) (v : Nat) :
    (st.shift v).quadPos = (st.quadPos + 1) % 4 := by
  by_cases h : 2 ≤ st.leftbits
  · rw [A2bState.shift_of_le h]
  · rw [A2bState.shift_of_lt (by omega)]

@[simp] theorem A2bState.shift_leftbits (st : A2bState) (v : Nat) :
    (st.shift v).leftbits = if 2 ≤ st.leftbits then st.leftbits - 2 else st.leftbits + 6 := by
  by_cases h : 2 ≤ st.leftbits
  · rw [A2bState.shift_of_le h, if_pos h]
  · rw [A2bState.shift_of_lt (by omega), if_neg h]

@[simp] theorem A2bState.shift_length_out (st : A2bState) (v : Nat) :
    (st.shift v).out.length = if 2 ≤ st.leftbits then st.out.length + 1 else st.out.length := by
  by_cases h : 2 ≤ st.leftbits
  · rw [A2bState.shift_of_le h, if_pos h, List.length_append, List.length_singleton]
  · rw [A2bState.shift_of_lt (by omega), if_neg h]

/-- The big-endian value of a byte string. -/
def bytesValue (bs : Bytes) : Nat := bs.foldl (fun acc b => acc * 256 + b.toNat) 0

theorem bytesValue_append (bs cs : Bytes) :
    bytesValue (bs ++ cs) = cs.foldl (fun acc b => acc * 256 + b.toNat) (bytesValue bs) := by
  rw [bytesValue, List.foldl_append]; rfl

theorem bytesValue_append_singleton (bs : Bytes) (b : UInt8) :
    bytesValue (bs ++ [b]) = bytesValue bs * 256 + b.toNat := by
  rw [bytesValue_append]; rfl

/-- Byte strings of one length are told apart by their value. -/
theorem bytesValue_inj {xs ys : Bytes} (hlen : xs.length = ys.length)
    (h : bytesValue xs = bytesValue ys) : xs = ys := by
  induction xs using List.reverseRecOn generalizing ys with
  | nil => exact (List.length_eq_zero.mp hlen.symm).symm
  | append_singleton xs x ih =>
    obtain ⟨ys, y, rfl⟩ : ∃ ys' y, ys = ys' ++ [y] := by
      rcases List.eq_nil_or_concat ys with rfl | ⟨ys', y, rfl⟩
      · simp at hlen
      · exact ⟨ys', y, List.concat_eq_append _ _⟩
    rw [bytesValue_append_singleton, bytesValue_append_singleton] at h
    have hx : x.toNat < 256 := x.val.isLt
    have hy : y.toNat < 256 := y.val.isLt
    obtain ⟨hv, hxy⟩ : bytesValue xs = bytesValue ys ∧ x.toNat = y.toNat := by omega
    rw [ih (by simpa using hlen) hv, UInt8.toNat.inj hxy]

/-- What the loop has read, as a number: the bytes it wrote, then the
    `leftbits` bits of `leftchar`. -/
def A2bState.bits (st : A2bState) : Nat := bytesValue st.out * 2 ^ st.leftbits + st.leftchar

/-- `leftchar` holds `leftbits` bits, fewer than a byte. -/
def A2bState.Aligned (st : A2bState) : Prop := st.leftchar < 2 ^ st.leftbits ∧ st.leftbits < 8

/-- A fresh quad with nothing written is aligned. -/
theorem A2bState.aligned_init (out : Bytes) : (⟨0, 0, 0, out⟩ : A2bState).Aligned :=
  ⟨Nat.one_pos, show 0 < 8 by decide⟩

/-- Each digit shifts its six bits into what the loop has read. -/
theorem A2bState.shift_bits {st : A2bState} (h : st.Aligned) {v : Nat} (hv : v < 64) :
    (st.shift v).Aligned ∧ (st.shift v).bits = st.bits * 64 + v := by
  obtain ⟨hlc, hk⟩ := h
  by_cases hle : 2 ≤ st.leftbits
  · rw [A2bState.shift_of_le hle]
    obtain ⟨P, hP⟩ : ∃ P, 2 ^ (st.leftbits - 2) = P := ⟨_, rfl⟩
    have h2k : 2 ^ st.leftbits = P * 4 := by
      rw [← hP, show (4 : Nat) = 2 ^ 2 from rfl, ← pow_add]
      exact congrArg (2 ^ ·) (by omega)
    have hPpos : 0 < P := hP ▸ Nat.pos_pow_of_pos _ (by decide)
    have hq : (st.leftchar * 64 + v) / P < 256 := (Nat.div_lt_iff_lt_mul hPpos).mpr (by omega)
    have hdm := Nat.div_add_mod (st.leftchar * 64 + v) P
    refine ⟨⟨by dsimp only; rw [hP]; exact Nat.mod_lt _ hPpos, by dsimp only; omega⟩, ?_⟩
    simp only [A2bState.bits, hP, bytesValue_append_singleton,
      UInt8.toNat_ofNat_of_lt (show _ < UInt8.size from hq), h2k]
    calc (bytesValue st.out * 256 + (st.leftchar * 64 + v) / P) * P + (st.leftchar * 64 + v) % P
        = bytesValue st.out * (P * 4) * 64 +
            (P * ((st.leftchar * 64 + v) / P) + (st.leftchar * 64 + v) % P) := by ring
      _ = (bytesValue st.out * (P * 4) + st.leftchar) * 64 + v := by rw [hdm]; ring
  · rw [A2bState.shift_of_lt (by omega)]
    have h64 : 2 ^ (st.leftbits + 6) = 2 ^ st.leftbits * 64 := by rw [pow_add]; rfl
    refine ⟨⟨by dsimp only; rw [h64]; omega, by dsimp only; omega⟩, ?_⟩
    simp only [A2bState.bits, h64]
    ring

/-- A run of digits shifts them all in, six bits each. -/
theorem A2bState.foldl_shift_bits {st : A2bState} (h : st.Aligned) (vs : List Nat)
    (hvs : ∀ v ∈ vs, v < 64) :
    (vs.foldl A2bState.shift st).Aligned ∧
      (vs.foldl A2bState.shift st).bits = vs.foldl (fun acc v => acc * 64 + v) st.bits := by
  induction vs generalizing st with
  | nil => exact ⟨h, rfl⟩
  | cons v vs ih =>
    obtain ⟨h', hb⟩ := A2bState.shift_bits h (hvs v (List.mem_cons_self _ _))
    rw [List.foldl_cons, List.foldl_cons, ← hb]
    exact ih h' fun w hw => hvs w (List.mem_cons_of_mem _ hw)

/-- A state that has read the bits of `ys` and then only zero bits has
    written `ys`, when it has written as many bytes. -/
theorem A2bState.eq_of_bits {st : A2bState} (h : st.Aligned) {ys : Bytes}
    (hb : st.bits = bytesValue ys * 2 ^ st.leftbits) (hlen : st.out.length = ys.length) :
    st.out = ys ∧ st.leftchar = 0 := by
  have hP : 0 < 2 ^ st.leftbits := Nat.pos_pow_of_pos _ (by decide)
  have key : bytesValue ys * 2 ^ st.leftbits / 2 ^ st.leftbits = bytesValue st.out ∧
      bytesValue ys * 2 ^ st.leftbits % 2 ^ st.leftbits = st.leftchar :=
    (Nat.div_mod_unique hP).mpr ⟨by rw [← hb, A2bState.bits]; ring, h.1⟩
  rw [Nat.mul_div_cancel _ hP, Nat.mul_mod_left] at key
  exact ⟨bytesValue_inj hlen key.1.symm, key.2.symm⟩

/-- Four digits spell out a number below `2 ^ 24`. -/
theorem digits64 (n : Nat) (h : n < 16777216) :
    ((n / 262144 % 64 * 64 + n / 4096 % 64) * 64 + n / 64 % 64) * 64 + n % 64 = n := by
  have h1 : n / 262144 % 64 = n / 64 / 64 / 64 := by
    rw [Nat.div_div_eq_div_mul, Nat.div_div_eq_div_mul, Nat.mod_eq_of_lt (by omega)]
  have h2 : n / 4096 = n / 64 / 64 := by rw [Nat.div_div_eq_div_mul]
  rw [h1, h2, Nat.div_add_mod', Nat.div_add_mod', Nat.div_add_mod']

/-- The digits `b64Chars` writes are below 64. -/
theorem forall_mod_lt (ns : List Nat) : ∀ v ∈ ns.map (· % 64), v < 64 := by
  simp only [List.mem_map]
  rintro _ ⟨n, -, rfl⟩
  exact Nat.mod_lt n (by decide)

-- ============================================================================
-- The round trip
-- ============================================================================

/-- The four digits of a three-byte group write the three bytes and leave
    no bits over. -/
theorem shift_group (out : Bytes) {a b c : UInt8} {n : Nat}
    (hn : n = a.toNat * 65536 + b.toNat * 256 + c.toNat) :
    [n / 262144 % 64, n / 4096 % 64, n / 64 % 64, n % 64].foldl A2bState.shift ⟨0, 0, 0, out⟩ =
      ⟨0, 0, 0, out ++ [a, b, c]⟩ := by
  have hd := digits64 n (by
    have : a.toNat < 256 := a.val.isLt
    have : b.toNat < 256 := b.val.isLt
    have : c.toNat < 256 := c.val.isLt
    omega)
  obtain ⟨hal, hbits⟩ := A2bState.foldl_shift_bits (A2bState.aligned_init out) _
    (forall_mod_lt [n / 262144, n / 4096, n / 64, n])
  simp only [List.map_cons, List.map_nil] at hal hbits
  generalize hst : [n / 262144 % 64, n / 4096 % 64, n / 64 % 64, n % 64].foldl A2bState.shift
    ⟨0, 0, 0, out⟩ = st at hal hbits
  have hk : st.leftbits = 0 := by rw [← hst]; simp
  have hlen : st.out.length = (out ++ [a, b, c]).length := by rw [← hst]; simp
  have hb : st.bits = bytesValue (out ++ [a, b, c]) * 2 ^ st.leftbits := by
    rw [hbits, hk]
    simp only [List.foldl_cons, List.foldl_nil, A2bState.bits, bytesValue_append, pow_zero, mul_one,
      add_zero]
    calc _ = bytesValue out * 16777216 +
          (((n / 262144 % 64 * 64 + n / 4096 % 64) * 64 + n / 64 % 64) * 64 + n % 64) := by ring
      _ = _ := by rw [hd, hn]; ring
  obtain ⟨hout, hl⟩ := A2bState.eq_of_bits hal hb hlen
  have hq : st.quadPos = 0 := by rw [← hst]; simp
  obtain ⟨q, l, k, o⟩ := st
  dsimp only at hq hl hk hout
  rw [hq, hl, hk, hout]

/-- The three digits of a two-byte tail write the two bytes, two zero bits over. -/
theorem shift_pair (out : Bytes) {a b : UInt8} {n : Nat} (hn : n = a.toNat * 65536 + b.toNat * 256) :
    ∃ l, [n / 262144 % 64, n / 4096 % 64, n / 64 % 64].foldl A2bState.shift ⟨0, 0, 0, out⟩ =
      ⟨3, l, 2, out ++ [a, b]⟩ := by
  have hlow : n % 64 = 0 := by omega
  have hd := digits64 n (by
    have : a.toNat < 256 := a.val.isLt
    have : b.toNat < 256 := b.val.isLt
    omega)
  rw [hlow, add_zero] at hd
  have hX : (n / 262144 % 64 * 64 + n / 4096 % 64) * 64 + n / 64 % 64 =
      a.toNat * 1024 + b.toNat * 4 :=
    Nat.eq_of_mul_eq_mul_right (by decide : 0 < 64) (hd.trans (by rw [hn]; ring))
  obtain ⟨hal, hbits⟩ := A2bState.foldl_shift_bits (A2bState.aligned_init out) _
    (forall_mod_lt [n / 262144, n / 4096, n / 64])
  simp only [List.map_cons, List.map_nil] at hal hbits
  generalize hst : [n / 262144 % 64, n / 4096 % 64, n / 64 % 64].foldl A2bState.shift
    ⟨0, 0, 0, out⟩ = st at hal hbits
  have hk : st.leftbits = 2 := by rw [← hst]; simp
  have hlen : st.out.length = (out ++ [a, b]).length := by rw [← hst]; simp
  have hb : st.bits = bytesValue (out ++ [a, b]) * 2 ^ st.leftbits := by
    rw [hbits, hk]
    simp only [List.foldl_cons, List.foldl_nil, A2bState.bits, bytesValue_append, pow_zero,
      mul_one, add_zero]
    calc _ = bytesValue out * 262144 +
          ((n / 262144 % 64 * 64 + n / 4096 % 64) * 64 + n / 64 % 64) := by ring
      _ = _ := by rw [hX]; ring
  obtain ⟨hout, -⟩ := A2bState.eq_of_bits hal hb hlen
  have hq : st.quadPos = 3 := by rw [← hst]; simp
  obtain ⟨q, l, k, o⟩ := st
  dsimp only at hq hk hout
  exact ⟨l, by rw [hq, hk, hout]⟩

/-- The two digits of a one-byte tail write the byte, four zero bits over. -/
theorem shift_single (out : Bytes) {a : UInt8} {n : Nat} (hn : n = a.toNat * 65536) :
    ∃ l, [n / 262144 % 64, n / 4096 % 64].foldl A2bState.shift ⟨0, 0, 0, out⟩ =
      ⟨2, l, 4, out ++ [a]⟩ := by
  have hlow : n / 64 % 64 = 0 ∧ n % 64 = 0 := by omega
  have hd := digits64 n (by
    have : a.toNat < 256 := a.val.isLt
    omega)
  rw [hlow.1, hlow.2, add_zero, add_zero] at hd
  have hY : n / 262144 % 64 * 64 + n / 4096 % 64 = a.toNat * 16 :=
    Nat.eq_of_mul_eq_mul_right (by decide : 0 < 4096)
      (calc _ = (n / 262144 % 64 * 64 + n / 4096 % 64) * 64 * 64 := by ring
        _ = _ := by rw [hd, hn]; ring)
  obtain ⟨hal, hbits⟩ := A2bState.foldl_shift_bits (A2bState.aligned_init out) _
    (forall_mod_lt [n / 262144, n / 4096])
  simp only [List.map_cons, List.map_nil] at hal hbits
  generalize hst : [n / 262144 % 64, n / 4096 % 64].foldl A2bState.shift ⟨0, 0, 0, out⟩ = st
    at hal hbits
  have hk : st.leftbits = 4 := by rw [← hst]; simp
  have hlen : st.out.length = (out ++ [a]).length := by rw [← hst]; simp
  have hb : st.bits = bytesValue (out ++ [a]) * 2 ^ st.leftbits := by
    rw [hbits, hk]
    simp only [List.foldl_cons, List.foldl_nil, A2bState.bits, bytesValue_append, pow_zero,
      mul_one, add_zero]
    calc _ = bytesValue out * 4096 + (n / 262144 % 64 * 64 + n / 4096 % 64) := by ring
      _ = _ := by rw [hY]; ring
  obtain ⟨hout, -⟩ := A2bState.eq_of_bits hal hb hlen
  have hq : st.quadPos = 2 := by rw [← hst]; simp
  obtain ⟨q, l, k, o⟩ := st
  dsimp only at hq hk hout
  exact ⟨l, by rw [hq, hk, hout]⟩

/-- A pad that closes a quad ends the input, dropping the bits over. -/
theorem a2bLoop_pad (st : A2bState) (s : List Char)
    (h : 3 ≤ st.quadPos ∨ (st.quadPos = 2 ∧ nextValid s = some '=')) :
    a2bLoop st ('=' :: s) = { st with leftbits := 0 } := by
  have hclose : ¬(st.quadPos < 2 ∨ (st.quadPos = 2 ∧ nextValid s ≠ some '=')) := by
    rcases h with h | ⟨h1, h2⟩
    · omega
    · simp [h1, h2]
  rw [a2bLoop, if_neg (by decide), if_pos rfl, if_neg hclose]

/-- Decoding what `b64Chars` wrote, from a fresh quad, writes the bytes and
    leaves no bits over. -/
theorem a2bLoop_b64Chars (bs : List UInt8) :
    ∀ out, ∃ q l, a2bLoop ⟨0, 0, 0, out⟩ (b64Chars bs) = ⟨q, l, 0, out ++ bs⟩ := by
  induction bs using b64Chars.induct with
  | case1 a b c rest ih =>
    intro out
    obtain ⟨q, l, h⟩ := ih (out ++ [a, b, c])
    refine ⟨q, l, ?_⟩
    rw [b64Chars, a2bLoop_b64Digit, a2bLoop_b64Digit, a2bLoop_b64Digit, a2bLoop_b64Digit]
    show a2bLoop ([_, _, _, _].foldl A2bState.shift ⟨0, 0, 0, out⟩) _ = _
    rw [shift_group out rfl, h, List.append_assoc]
    rfl
  | case2 a b =>
    intro out
    obtain ⟨l, hs⟩ := @shift_pair out a b _ rfl
    refine ⟨3, l, ?_⟩
    rw [b64Chars, a2bLoop_b64Digit, a2bLoop_b64Digit, a2bLoop_b64Digit]
    show a2bLoop ([_, _, _].foldl A2bState.shift ⟨0, 0, 0, out⟩) _ = _
    rw [hs, a2bLoop_pad _ _ (.inl le_rfl)]
  | case3 a =>
    intro out
    obtain ⟨l, hs⟩ := @shift_single out a _ rfl
    refine ⟨2, l, ?_⟩
    rw [b64Chars, a2bLoop_b64Digit, a2bLoop_b64Digit]
    show a2bLoop ([_, _].foldl A2bState.shift ⟨0, 0, 0, out⟩) _ = _
    rw [hs, a2bLoop_pad _ ['='] (.inr ⟨rfl, rfl⟩)]
  | case4 => exact fun out => ⟨0, 0, by rw [List.append_nil]; rfl⟩

/-- `b64decode(b64encode(bs)) == bs`: the digest a reply carries in base64
    is read back as the bytes that were encoded. -/
theorem b64decode_b64encode (bs : Bytes) : b64decode (b64encode bs) = .ok bs := by
  obtain ⟨q, l, h⟩ := a2bLoop_b64Chars bs []
  simp only [b64decode, b64encode, h, if_true]
  rfl

example : b64decode (b64encode [0, 1, 2, 255]) = .ok [0, 1, 2, 255] := rfl

end NimbusIo
