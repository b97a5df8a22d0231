/-
  NimbusIo.Messages.DatabaseListMatch

  `messages/database_listmatch.py`: the message that asks a database
  server for a list of keys.  `marshall` packs a fixed header with
  `struct.pack("!32sQ", request_id, avatar_id)` (32 bytes of request id,
  then the avatar id as eight big-endian bytes) and appends the three
  string fields, each through `marshall_string`; `unmarshall` reads them
  back in that order, threading the position through `unmarshall_string`.

  `tools.marshalling` is not part of this source, so its string codec is a
  parameter.  When the codec is self-delimiting (`unmarshall_string` at a
  position where `marshall_string(s)` begins reads back `s` and stops at
  its end), `unmarshall` inverts `marshall` for every message whose
  request id has 32 bytes and whose avatar id fits in 64 bits.  When the
  codec is sound (what `unmarshall_string` returns was encoded where it
  read), `unmarshall` accepts only data that begins with the encoding of
  the message it returns; bytes after the three strings are ignored.
-/
import NimbusIo.Wire

namespace NimbusIo
namespace Messages

-- ============================================================================
-- The `struct` fields
-- ============================================================================

/-- The `w` bytes of `n`, most significant first: `struct`'s `!` order. -/
def beBytes : Nat → Nat → Bytes
  | 0, _ => []
  | w + 1, n => beBytes w (n / 256) ++ [UInt8.ofNat (n % 256)]

/-- The number big-endian bytes stand for. -/
def beValue (bs : Bytes) : Nat := bs.foldl (fun acc b => acc * 256 + b.toNat) 0

@[simp] theorem beBytes_length (w n : Nat) : (beBytes w n).length = w := by
  induction w generalizing n with
  | zero => rfl
  | succ w ih => simp [beBytes, ih]

theorem beValue_append_singleton (bs : Bytes) (b : UInt8) :
    beValue (bs ++ [b]) = beValue bs * 256 + b.toNat := by
  simp [beValue, List.foldl_append]

/-- Reading `w` big-endian bytes gives back the number modulo `256 ^ w`. -/
theorem beValue_beBytes (w n : Nat) : beValue (beBytes w n) = n % 256 ^ w := by
  induction w generalizing n with
  | zero => simp [beBytes, beValue, Nat.mod_one]
  | succ w ih =>
    have hbyte : (UInt8.ofNat (n % 256)).toNat = n % 256 :=
      UInt8.toNat_ofNat_of_lt (show n % 256 < UInt8.size from Nat.mod_lt _ (by decide))
    rw [beBytes, beValue_append_singleton, ih, hbyte, Nat.pow_succ', Nat.mod_mul]
    omega

theorem beValue_lt (bs : Bytes) : beValue bs < 256 ^ bs.length := by
  induction bs using List.reverseRecOn with
  | nil => simp [beValue]
  | append_singleton bs b ih =>
    rw [beValue_append_singleton, List.length_append, List.length_singleton, Nat.pow_succ]
    have := b.toNat_lt_size
    simp only [UInt8.size] at this
    omega

theorem beBytes_beValue (bs : Bytes) : beBytes bs.length (beValue bs) = bs := by
  induction bs using List.reverseRecOn with
  | nil => rfl
  | append_singleton bs b ih =>
    have hb := b.toNat_lt_size
    rw [List.length_append, List.length_singleton, beBytes, beValue_append_singleton]
    simp only [UInt8.size] at hb
    rw [show (beValue bs * 256 + b.toNat) / 256 = beValue bs by omega,
      show (beValue bs * 256 + b.toNat) % 256 = b.toNat by omega, ih,
      UInt8.toNat.inj (UInt8.toNat_ofNat_of_lt b.toNat_lt_size)]

/-- `struct`'s `32s` and the like: the bytes cut or padded with zeros to `w`. -/
def packBytes (w : Nat) (b : Bytes) : Bytes := b.take w ++ List.replicate (w - b.length) 0

theorem packBytes_of_length {w : Nat} {b : Bytes} (h : b.length = w) : packBytes w b = b := by
  simp [packBytes, h]

-- ============================================================================
-- The message
-- ============================================================================

/-- `_header_size = struct.calcsize("!32sQ")`. -/
def headerSize : Nat := 40

/-- `struct.pack("!32sQ", request_id, avatar_id)`: `struct.error` when the
    avatar id is outside `[0, 2 ^ 64)`. -/
def packHeader (requestId : Bytes) (avatarId : Int) : Except PyError Bytes :=
  if 0 ≤ avatarId ∧ avatarId < 2 ^ 64 then .ok (packBytes 32 requestId ++ beBytes 8 avatarId.toNat)
  else .error (.raised "struct.error")

/-- `struct.unpack("!32sQ", header)`: `struct.error` unless it has exactly
    `_header_size` bytes. -/
def unpackHeader (header : Bytes) : Except PyError (Bytes × Int) :=
  if header.length = headerSize then .ok (header.take 32, beValue (header.drop 32))
  else .error (.raised "struct.error")

/-- `marshall_string` and `unmarshall_string` of `tools.marshalling`. -/
structure StringCodec where
  marshallString : String → Bytes
  unmarshallString : Bytes → Nat → Except PyError (String × Nat)

/-- `unmarshall_string(data, pos)` reads `s` back from wherever
    `marshall_string(s)` begins, and returns the position just after it. -/
def StringCodec.SelfDelimiting (codec : StringCodec) : Prop :=
  ∀ s data pos, codec.marshallString s <+: data.drop pos →
    codec.unmarshallString data pos = .ok (s, pos + (codec.marshallString s).length)

/-- `unmarshall_string(data, pos)` invents nothing: the string it returns
    was encoded at `pos`, and the position it returns is just after it. -/
def StringCodec.Sound (codec : StringCodec) : Prop :=
  ∀ data pos s pos', codec.unmarshallString data pos = .ok (s, pos') →
    codec.marshallString s <+: data.drop pos ∧ pos' = pos + (codec.marshallString s).length

/-- A `DatabaseListMatch`; `keyPrefix` is its `prefix`. -/
structure DatabaseListMatch where
  requestId : Bytes
  avatarId : Int
  replyExchange : String
  replyRoutingHeader : String
  keyPrefix : String
  deriving DecidableEq, Repr

/-- `DatabaseListMatch.marshall`. -/
def DatabaseListMatch.marshall (codec : StringCodec) (m : DatabaseListMatch) :
    Except PyError Bytes := do
  let header ← packHeader m.requestId m.avatarId
  let packedReplyExchange := codec.marshallString m.replyExchange
  let packedReplyRoutingHeader := codec.marshallString m.replyRoutingHeader
  let packedPrefix := codec.marshallString m.keyPrefix
  pure (header ++ packedReplyExchange ++ packedReplyRoutingHeader ++ packedPrefix)

/-- `DatabaseListMatch.unmarshall`. -/
def DatabaseListMatch.unmarshall (codec : StringCodec) (data : Bytes) :
    Except PyError DatabaseListMatch := do
  let pos := 0
  let (requestId, avatarId) ← unpackHeader ((data.drop pos).take headerSize)
  let pos := pos + headerSize
  let (replyExchange, pos) ← codec.unmarshallString data pos
  let (replyRoutingHeader, pos) ← codec.unmarshallString data pos
  let (keyPrefix, _) ← codec.unmarshallString data pos
  pure ⟨requestId, avatarId, replyExchange, replyRoutingHeader, keyPrefix⟩

-- ============================================================================
-- The round trip
-- ============================================================================

@[simp] theorem except_ok_bind {α β : Type} (x : α) (f : α → Except PyError β) :
    (Except.ok x >>= f) = f x := rfl

/-- The header of a request id of 32 bytes and an avatar id in range. -/
theorem packHeader_ok {requestId : Bytes} {avatarId : Int} (hid : requestId.length = 32)
    (havatar : 0 ≤ avatarId ∧ avatarId < 2 ^ 64) :
    packHeader requestId avatarId = .ok (requestId ++ beBytes 8 avatarId.toNat) := by
  rw [packHeader, if_pos havatar, packBytes_of_length hid]

/-- Unpacking the first `_header_size` bytes of such a header and anything
    after it gives back both fields. -/
theorem unpackHeader_take {requestId : Bytes} {avatarId : Int} (hid : requestId.length = 32)
    (havatar : 0 ≤ avatarId ∧ avatarId < 2 ^ 64) (rest : Bytes) :
    unpackHeader ((requestId ++ beBytes 8 avatarId.toNat ++ rest).take headerSize) =
      .ok (requestId, avatarId) := by
  have hlen : (requestId ++ beBytes 8 avatarId.toNat).length = headerSize := by
    simp [hid, headerSize]
  have hval : (beValue (beBytes 8 avatarId.toNat) : Int) = avatarId := by
    rw [beValue_beBytes, Nat.mod_eq_of_lt (by omega)]
    exact Int.toNat_of_nonneg havatar.1
  rw [← hlen, List.take_left, unpackHeader, if_pos hlen, List.take_left' hid,
    List.drop_left' hid, hval]

/-- The `struct.error`s: `marshall` raises one exactly when the avatar id
    is outside `[0, 2 ^ 64)`, and `unmarshall` on data shorter than the
    header. -/
theorem databaseListMatch_structErrors (codec : StringCodec) (m : DatabaseListMatch) (data : Bytes) :
    (m.marshall codec = .error (.raised "struct.error") ↔ ¬(0 ≤ m.avatarId ∧ m.avatarId < 2 ^ 64)) ∧
    (data.length < headerSize →
      DatabaseListMatch.unmarshall codec data = .error (.raised "struct.error")) := by
  refine ⟨?_, fun hlen => ?_⟩
  · by_cases h : 0 ≤ m.avatarId ∧ m.avatarId < 2 ^ 64
    · simp only [DatabaseListMatch.marshall, packHeader, if_pos h, except_ok_bind]
      exact ⟨fun e => (by cases e), fun hn => absurd h hn⟩
    · simp only [DatabaseListMatch.marshall, packHeader, if_neg h]
      exact ⟨fun _ => h, fun _ => rfl⟩
  · have hshort : (data.take headerSize).length ≠ headerSize := by
      rw [List.length_take]
      omega
    simp only [DatabaseListMatch.unmarshall, List.drop_zero, unpackHeader, if_neg hshort]
    rfl

/-- With a self-delimiting string codec, `unmarshall` gives back every
    message `marshall` packs: a request id of 32 bytes and an avatar id in
    `[0, 2 ^ 64)`, with any three strings. -/
theorem databaseListMatch_roundTrip (codec : StringCodec) (hcodec : codec.SelfDelimiting)
    (m : DatabaseListMatch) (hid : m.requestId.length = 32)
    (havatar : 0 ≤ m.avatarId ∧ m.avatarId < 2 ^ 64) :
    ∃ data, m.marshall codec = .ok data ∧ DatabaseListMatch.unmarshall codec data = .ok m := by
  set header := m.requestId ++ beBytes 8 m.avatarId.toNat
  set a := codec.marshallString m.replyExchange
  set b := codec.marshallString m.replyRoutingHeader
  set c := codec.marshallString m.keyPrefix
  have hheader : header.length = headerSize := by simp [header, hid, headerSize]
  have hhead : unpackHeader ((header ++ (a ++ (b ++ c))).take headerSize) =
      .ok (m.requestId, m.avatarId) :=
    unpackHeader_take hid havatar _
  /- Each string field is read where `marshall` put it. -/
  have ha : codec.unmarshallString (header ++ (a ++ (b ++ c))) headerSize =
      .ok (m.replyExchange, headerSize + a.length) :=
    hcodec _ _ _ ⟨b ++ c, (List.drop_left' hheader).symm⟩
  have hb : codec.unmarshallString (header ++ (a ++ (b ++ c))) (headerSize + a.length) =
      .ok (m.replyRoutingHeader, headerSize + a.length + b.length) :=
    hcodec _ _ _ ⟨c, by rw [← hheader, List.drop_append, List.drop_left]⟩
  have hc : codec.unmarshallString (header ++ (a ++ (b ++ c))) (headerSize + a.length + b.length) =
      .ok (m.keyPrefix, headerSize + a.length + b.length + c.length) :=
    hcodec _ _ _ ⟨[], by
      rw [← hheader, Nat.add_assoc, List.drop_append, List.drop_append, List.drop_left, List.append_nil]⟩
  refine ⟨header ++ (a ++ (b ++ c)), ?_, ?_⟩
  · rw [DatabaseListMatch.marshall, packHeader_ok hid havatar]
    simp only [except_ok_bind, header, List.append_assoc]
    rfl
  · simp only [DatabaseListMatch.unmarshall, List.drop_zero, Nat.zero_add, hhead, except_ok_bind, ha,
      hb, hc]
    rfl

theorem drop_eq_append_drop {a data : Bytes} {pos : Nat} (h : a <+: data.drop pos) :
    data.drop pos = a ++ data.drop (pos + a.length) := by
  obtain ⟨t, ht⟩ := h
  rw [← List.drop_drop, ← ht, List.drop_left]

/-- A header `struct.unpack` accepts is the packing of what it returns. -/
theorem unpackHeader_ok {header requestId : Bytes} {avatarId : Int}
    (h : unpackHeader header = .ok (requestId, avatarId)) :
    packHeader requestId avatarId = .ok header := by
  unfold unpackHeader at h
  split at h
  · rename_i hlen
    cases h
    have h8 : (header.drop 32).length = 8 := by simp [hlen, headerSize]
    have hlt := beValue_lt (header.drop 32)
    rw [h8] at hlt
    rw [packHeader, if_pos ⟨by omega, by omega⟩, packBytes_of_length (by simp [hlen, headerSize]),
      Int.toNat_ofNat, ← h8, beBytes_beValue, List.take_append_drop]
  · cases h

/-- With a sound string codec, `unmarshall` accepts only data that begins
    with the encoding of the message it returns; what follows is ignored. -/
theorem databaseListMatch_unmarshall_sound (codec : StringCodec) (hcodec : codec.Sound)
    {data : Bytes} {m : DatabaseListMatch} (h : DatabaseListMatch.unmarshall codec data = .ok m) :
    ∃ bytes rest, m.marshall codec = .ok bytes ∧ data = bytes ++ rest := by
  simp only [DatabaseListMatch.unmarshall, List.drop_zero, Nat.zero_add] at h
  rcases hh : unpackHeader (data.take headerSize) with _ | ⟨requestId, avatarId⟩ <;>
    simp only [hh, except_ok_bind] at h
  · cases h
  rcases ha : codec.unmarshallString data headerSize with _ | ⟨replyExchange, p₁⟩ <;>
    simp only [ha, except_ok_bind] at h
  · cases h
  rcases hb : codec.unmarshallString data p₁ with _ | ⟨replyRoutingHeader, p₂⟩ <;>
    simp only [hb, except_ok_bind] at h
  · cases h
  rcases hc : codec.unmarshallString data p₂ with _ | ⟨keyPrefix, p₃⟩ <;>
    simp only [hc, except_ok_bind] at h
  · cases h
  cases h
  obtain ⟨pa, rfl⟩ := hcodec _ _ _ _ ha
  obtain ⟨pb, rfl⟩ := hcodec _ _ _ _ hb
  obtain ⟨pc, -⟩ := hcodec _ _ _ _ hc
  have hdata := List.take_append_drop headerSize data
  rw [drop_eq_append_drop pa, drop_eq_append_drop pb, drop_eq_append_drop pc] at hdata
  refine ⟨data.take headerSize ++ (codec.marshallString replyExchange ++
    (codec.marshallString replyRoutingHeader ++ codec.marshallString keyPrefix)), _, ?_,
    by simpa only [List.append_assoc] using hdata.symm⟩
  simp only [DatabaseListMatch.marshall, unpackHeader_ok hh, except_ok_bind, List.append_assoc]
  rfl

-- ============================================================================
-- A self-delimiting codec
-- ============================================================================

/-- Four-byte groups up to the first zero group: each other group is one
    character, its code point plus one. -/
def readGroups : Bytes → Except PyError (List Char × Nat)
  | a :: b :: c :: d :: rest =>
    if beValue [a, b, c, d] = 0 then .ok ([], 4)
    else (readGroups rest).map fun (cs, n) => (Char.ofNat (beValue [a, b, c, d] - 1) :: cs, n + 4)
  | _ => .error (.raised "struct.error")

/-- A string codec: each character as four bytes holding its code point
    plus one, then four zero bytes. -/
def groupCodec : StringCodec where
  marshallString s := s.data.flatMap (fun c => beBytes 4 (c.toNat + 1)) ++ [0, 0, 0, 0]
  unmarshallString data pos := (readGroups (data.drop pos)).map fun (cs, n) => (⟨cs⟩, pos + n)

theorem readGroups_group {g : Bytes} (hg : g.length = 4) (rest : Bytes) :
    readGroups (g ++ rest) = if beValue g = 0 then .ok ([], 4)
      else (readGroups rest).map fun (cs, n) => (Char.ofNat (beValue g - 1) :: cs, n + 4) :=
  match g, hg with
  | [_, _, _, _], _ => rfl

theorem readGroups_marshall (cs : List Char) (rest : Bytes) :
    readGroups (cs.flatMap (fun c => beBytes 4 (c.toNat + 1)) ++ [0, 0, 0, 0] ++ rest) =
      .ok (cs, (cs.flatMap (fun c => beBytes 4 (c.toNat + 1))).length + 4) := by
  induction cs with
  | nil => rfl
  | cons c cs ih =>
    have hc : c.toNat < 0x110000 := by
      have h := c.valid
      unfold UInt32.isValidChar Nat.isValidChar at h
      show c.val.toNat < 0x110000
      omega
    have hval : beValue (beBytes 4 (c.toNat + 1)) = c.toNat + 1 := by
      rw [beValue_beBytes, Nat.mod_eq_of_lt (by omega)]
    rw [List.flatMap_cons, List.append_assoc, List.append_assoc,
      readGroups_group (beBytes_length 4 _), hval, if_neg (Nat.succ_ne_zero _),
      ← List.append_assoc, ih]
    simp only [Except.map, Nat.add_sub_cancel, Char.ofNat_toNat, List.length_append, beBytes_length]
    congr 2
    omega

theorem groupCodec_selfDelimiting : groupCodec.SelfDelimiting := by
  rintro s data pos ⟨rest, hrest⟩
  simp only [groupCodec] at hrest ⊢
  rw [← hrest, readGroups_marshall]
  simp [Except.map, Nat.add_assoc]

theorem listMatch_roundTrip_groupCodec :
    ∃ data, (⟨List.replicate 32 97, 7, "reply-exchange", "reply-header", "aaa/"⟩ :
      DatabaseListMatch).marshall groupCodec = .ok data ∧
      DatabaseListMatch.unmarshall groupCodec data =
        .ok ⟨List.replicate 32 97, 7, "reply-exchange", "reply-header", "aaa/"⟩ :=
  databaseListMatch_roundTrip groupCodec groupCodec_selfDelimiting _ (by decide) (by decide)

-- ============================================================================
-- A sound codec
-- ============================================================================

theorem toNat_charOfNat {n : Nat} (h : n < 256) : (Char.ofNat n).toNat = n := by
  have hv : n.isValidChar := Or.inl (by omega)
  simp [Char.ofNat, hv, Char.ofNatAux, Char.toNat, UInt32.toNat, UInt32.ofNat']

/-- Bytes up to the first zero byte, each one character. -/
def readBytes : Bytes → Except PyError (List Char × Nat)
  | [] => .error (.raised "struct.error")
  | b :: rest =>
    if b = 0 then .ok ([], 1)
    else (readBytes rest).map fun (cs, n) => (Char.ofNat b.toNat :: cs, n + 1)

/-- A string codec: each character as one byte, then a zero byte. -/
def latinCodec : StringCodec where
  marshallString s := s.data.map (fun c => UInt8.ofNat c.toNat) ++ [0]
  unmarshallString data pos := (readBytes (data.drop pos)).map fun (cs, n) => (⟨cs⟩, pos + n)

theorem readBytes_sound {bs : Bytes} {cs : List Char} {n : Nat} (h : readBytes bs = .ok (cs, n)) :
    cs.map (fun c => UInt8.ofNat c.toNat) ++ [0] <+: bs ∧ n = cs.length + 1 := by
  induction bs generalizing cs n with
  | nil => cases h
  | cons b rest ih =>
    unfold readBytes at h
    split at h
    · cases h
      rename_i hb
      exact ⟨⟨rest, by simp [hb]⟩, rfl⟩
    · rename_i hb
      rcases hr : readBytes rest with _ | ⟨cs', n'⟩ <;> rw [hr] at h <;> cases h
      obtain ⟨⟨t, ht⟩, rfl⟩ := ih hr
      have hbyte : UInt8.ofNat (Char.ofNat b.toNat).toNat = b :=
        UInt8.toNat.inj (by rw [toNat_charOfNat b.toNat_lt_size, UInt8.toNat_ofNat_of_lt b.toNat_lt_size])
      exact ⟨⟨t, by simp [hbyte, ← ht]⟩, by simp⟩

theorem latinCodec_sound : latinCodec.Sound := by
  intro data pos s pos' h
  rcases hr : readBytes (data.drop pos) with _ | ⟨cs, n⟩ <;>
    simp only [latinCodec, hr, Except.map] at h
  · cases h
  cases h
  obtain ⟨hp, rfl⟩ := readBytes_sound hr
  exact ⟨hp, by simp [latinCodec]⟩

/-- A list-match request as `latinCodec` packs it, then two stray bytes. -/
def strayTailData : Bytes :=
  List.replicate 32 97 ++ [0, 0, 0, 0, 0, 0, 0, 7] ++ [120, 0, 121, 0, 97, 47, 0] ++ [9, 9]

theorem strayTail_unmarshall_sound :
    ∃ bytes rest, (⟨List.replicate 32 97, 7, "x", "y", "a/"⟩ : DatabaseListMatch).marshall latinCodec =
      .ok bytes ∧ strayTailData = bytes ++ rest :=
  databaseListMatch_unmarshall_sound latinCodec latinCodec_sound (by rfl)

end Messages
end NimbusIo
