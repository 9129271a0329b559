import Panes.Text.Utf8

/-!
# Written text is well-formed

The octets of a character are read as that character, whatever follows them: the first one announces
the others, and its range for the second one leaves out only what no character needs. So a text is
read back from its octets.
-/

namespace Panes.Text.Utf8

/-! ## One octet -/

section

variable {octet : UInt8} {octets : List UInt8} {bits : Nat} {range : Nat × Nat}

/-- A first octet announces the others. -/
theorem scan_lead {lead : Lead} (long : 0x80 ≤ octet.toNat)
    (announced : lead? octet.toNat = some lead) :
    scan .between (octet :: octets) = scan (.within lead.bits lead.second lead.rest) octets := by
  rw [scan, step, begin, if_neg (by omega), announced]
  rfl

/-- A further octet adds its bits. -/
theorem scan_more {rest : Nat} (inside : range.1 ≤ octet.toNat ∧ octet.toNat ≤ range.2) :
    scan (.within bits range (rest + 1)) (octet :: octets) =
      scan (.within (bits * 0x40 + octet.toNat % 0x40) (0x80, 0xbf) rest) octets := by
  rw [scan, step, if_pos inside]
  rfl

/-- The last octet completes the character. -/
theorem scan_last (inside : range.1 ≤ octet.toNat ∧ octet.toNat ≤ range.2) :
    scan (.within bits range 0) (octet :: octets) =
      some (Char.ofNat (bits * 0x40 + octet.toNat % 0x40)) :: scan .between octets := by
  rw [scan, step, if_pos inside]
  rfl

end

theorem toNat_toUInt8 {number : Nat} (small : number < 0x100) : number.toUInt8.toNat = number :=
  UInt8.toNat_ofNat_of_lt' small

/-- A further octet holds six bits. -/
theorem toNat_further (number : Nat) :
    (0x80 + number % 0x40).toUInt8.toNat = 0x80 + number % 0x40 := toNat_toUInt8 (by omega)

/-! ## Characters -/

theorem code_valid (char : Char) :
    char.toNat < 0xd800 ∨ 0xdfff < char.toNat ∧ char.toNat < 0x110000 := by
  have valid := char.valid
  simp only [UInt32.isValidChar, Nat.isValidChar] at valid
  exact valid

theorem lead_two (code : Nat) (least : 0x80 ≤ code) (greatest : code < 0x800) :
    lead? (0xc0 + code / 0x40) = some ⟨code / 0x40, (0x80, 0xbf), 0⟩ := by
  rw [lead?, if_pos (by omega), Nat.add_sub_cancel_left]

/-- The second octet of three lies in its range: only overlong forms and surrogates do not. -/
theorem lead_three (code : Nat) (least : 0x800 ≤ code) (greatest : code < 0x10000)
    (valid : code < 0xd800 ∨ 0xdfff < code) :
    ∃ second, lead? (0xe0 + code / 0x1000) = some ⟨code / 0x1000, second, 1⟩ ∧
      second.1 ≤ 0x80 + code / 0x40 % 0x40 ∧ 0x80 + code / 0x40 % 0x40 ≤ second.2 := by
  unfold lead?
  by_cases overlong : code / 0x1000 = 0
  · exact ⟨(0xa0, 0xbf), by simp [overlong], by simp only; omega⟩
  · by_cases surrogate : code / 0x1000 = 0xd
    · exact ⟨(0x80, 0x9f), by simp [surrogate], by simp only; omega⟩
    · refine ⟨(0x80, 0xbf), ?_, by simp only; omega⟩
      rw [if_neg (by omega), if_neg (by omega), if_neg (by omega), if_pos (by omega),
        Nat.add_sub_cancel_left]

/-- The second octet of four lies in its range: only overlong forms and numbers past the last
character do not. -/
theorem lead_four (code : Nat) (least : 0x10000 ≤ code) (greatest : code < 0x110000) :
    ∃ second, lead? (0xf0 + code / 0x40000) = some ⟨code / 0x40000, second, 2⟩ ∧
      second.1 ≤ 0x80 + code / 0x1000 % 0x40 ∧ 0x80 + code / 0x1000 % 0x40 ≤ second.2 := by
  unfold lead?
  by_cases overlong : code / 0x40000 = 0
  · exact ⟨(0x90, 0xbf), by simp [overlong], by simp only; omega⟩
  · by_cases last : code / 0x40000 = 4
    · exact ⟨(0x80, 0x8f), by simp [last], by simp only; omega⟩
    · refine ⟨(0x80, 0xbf), ?_, by simp only; omega⟩
      rw [if_neg (by omega), if_neg (by omega), if_neg (by omega), if_neg (by omega),
        if_neg (by omega), if_pos (by omega), Nat.add_sub_cancel_left]

section

variable {code : Nat} (octets : List UInt8)

theorem scan_one (small : code < 0x80) :
    scan .between (code.toUInt8 :: octets) = some (Char.ofNat code) :: scan .between octets := by
  have first : code.toUInt8.toNat = code := toNat_toUInt8 (by omega)
  rw [scan, step, begin, first, if_pos small]
  rfl

theorem scan_two (least : 0x80 ≤ code) (greatest : code < 0x800) :
    scan .between ((0xc0 + code / 0x40).toUInt8 :: (0x80 + code % 0x40).toUInt8 :: octets) =
      some (Char.ofNat code) :: scan .between octets := by
  have first : (0xc0 + code / 0x40).toUInt8.toNat = 0xc0 + code / 0x40 := toNat_toUInt8 (by omega)
  have lead := lead_two code least greatest
  rw [← first] at lead
  have joined : code / 0x40 * 0x40 + (0x80 + code % 0x40) % 0x40 = code := by omega
  rw [scan_lead (by omega) lead, scan_last (by rw [toNat_further]; simp only; omega),
    toNat_further, joined]

theorem scan_three (least : 0x800 ≤ code) (greatest : code < 0x10000)
    (valid : code < 0xd800 ∨ 0xdfff < code) :
    scan .between ((0xe0 + code / 0x1000).toUInt8 :: (0x80 + code / 0x40 % 0x40).toUInt8 ::
        (0x80 + code % 0x40).toUInt8 :: octets) =
      some (Char.ofNat code) :: scan .between octets := by
  have first : (0xe0 + code / 0x1000).toUInt8.toNat = 0xe0 + code / 0x1000 :=
    toNat_toUInt8 (by omega)
  obtain ⟨second, lead, inside⟩ := lead_three code least greatest valid
  rw [← first] at lead
  have joined : (code / 0x1000 * 0x40 + (0x80 + code / 0x40 % 0x40) % 0x40) * 0x40 +
      (0x80 + code % 0x40) % 0x40 = code := by omega
  rw [scan_lead (by omega) lead, scan_more (by rw [toNat_further]; exact inside), toNat_further,
    scan_last (by rw [toNat_further]; simp only; omega), toNat_further, joined]

theorem scan_four (least : 0x10000 ≤ code) (greatest : code < 0x110000) :
    scan .between ((0xf0 + code / 0x40000).toUInt8 :: (0x80 + code / 0x1000 % 0x40).toUInt8 ::
        (0x80 + code / 0x40 % 0x40).toUInt8 :: (0x80 + code % 0x40).toUInt8 :: octets) =
      some (Char.ofNat code) :: scan .between octets := by
  have first : (0xf0 + code / 0x40000).toUInt8.toNat = 0xf0 + code / 0x40000 :=
    toNat_toUInt8 (by omega)
  obtain ⟨second, lead, inside⟩ := lead_four code least greatest
  rw [← first] at lead
  have joined : ((code / 0x40000 * 0x40 + (0x80 + code / 0x1000 % 0x40) % 0x40) * 0x40 +
      (0x80 + code / 0x40 % 0x40) % 0x40) * 0x40 + (0x80 + code % 0x40) % 0x40 = code := by omega
  rw [scan_lead (by omega) lead, scan_more (by rw [toNat_further]; exact inside), toNat_further,
    scan_more (by rw [toNat_further]; simp only; omega), toNat_further,
    scan_last (by rw [toNat_further]; simp only; omega), toNat_further, joined]

end

/-- A character past the first 128 has no octet below `0x80`. -/
theorem octets_of_long {char : Char} (long : 0x80 ≤ char.toNat) :
    ∀ octet ∈ encodeChar char, 0x80 ≤ octet.toNat := by
  have valid := code_valid char
  intro octet member
  rw [encodeChar, if_neg (by omega)] at member
  generalize char.toNat = code at valid long member
  split at member
  · simp only [List.mem_cons, List.not_mem_nil, or_false] at member
    rcases member with rfl | rfl <;> rw [toNat_toUInt8 (by omega)] <;> omega
  split at member
  · simp only [List.mem_cons, List.not_mem_nil, or_false] at member
    rcases member with rfl | rfl | rfl <;> rw [toNat_toUInt8 (by omega)] <;> omega
  · simp only [List.mem_cons, List.not_mem_nil, or_false] at member
    rcases member with rfl | rfl | rfl | rfl <;> rw [toNat_toUInt8 (by omega)] <;> omega

/-- An octet below `0x80` stands for one character only. -/
theorem octet_notMem_encodeChar {octet : UInt8} {char : Char} (short : octet.toNat < 0x80)
    (other : char.toNat ≠ octet.toNat) : octet ∉ encodeChar char := by
  intro member
  have single : char.toNat < 0x80 := Nat.lt_of_not_le fun long =>
    absurd (octets_of_long long octet member) (Nat.not_le_of_lt short)
  rw [encodeChar, if_pos single, List.mem_singleton] at member
  rw [member, toNat_toUInt8 (by omega)] at other
  exact other rfl

theorem encodeChar_ne_nil (char : Char) : encodeChar char ≠ [] := by
  unfold encodeChar
  dsimp only
  split
  · simp
  split
  · simp
  split <;> simp

/-- The octets of a character are read as the character. -/
theorem scan_encodeChar (char : Char) (octets : List UInt8) :
    scan .between (encodeChar char ++ octets) = some char :: scan .between octets := by
  have valid := code_valid char
  have named : Char.ofNat char.toNat = char := Char.ofNat_toNat char
  unfold encodeChar
  generalize char.toNat = code at valid named
  subst named
  dsimp only
  split
  · exact scan_one octets (by omega)
  split
  · exact scan_two octets (by omega) (by omega)
  split
  · exact scan_three octets (by omega) (by omega) (by omega)
  · exact scan_four octets (by omega) (by omega)

/-! ## Texts -/

theorem encode_append (front back : List Char) :
    encode (front ++ back) = encode front ++ encode back := List.flatMap_append

theorem scan_encode (text : List Char) : scan .between (encode text) = text.map some := by
  induction text with
  | nil => rfl
  | cons char text ih =>
    rw [encode, List.flatMap_cons, scan_encodeChar, ← encode, ih, List.map_cons]

/-- A text is read back from its octets. -/
theorem decode_encode (text : List Char) : decode? (encode text) = some text := by
  rw [decode?, scan_encode]
  induction text with
  | nil => rfl
  | cons char text ih =>
    rw [List.map_cons, List.mapM_cons, ih]
    rfl

/-- Well-formed octets leave nothing to replace. -/
theorem decodeLossy_encode (text : List Char) : decodeLossy (encode text) = text := by
  rw [decodeLossy, scan_encode, List.map_map]
  exact List.map_id text

end Panes.Text.Utf8
