import Mathlib.Logic.ExistsUnique
import Mathlib.Tactic.SplitIfs
import Panes.Proofs.Text.Utf8
import Panes.Text.Percent

/-!
# The scan that undoes escapes

Undoing escapes is a scan from left to right: an octet takes the place of every escape that is met,
and everything else is copied. Which two octets after `%` make an escape is a parameter of the scan
(`Scans`), so that the readings can be compared: two digits (`hexPair?`), or a sign and a digit
(`signed?`). The decoder knows both. No escape can begin inside another one, as neither a digit nor
a sign is `%`, so the two scans part exactly where the octets hold a sign and a digit after `%`.
-/

namespace Panes.Text.Percent

/-! ## What the two octets after `%` denote -/

/-- A sign that may stand before a single digit. -/
def plus : UInt8 := 0x2b

/-- The octet that two digits denote. -/
def hexPair? (first second : UInt8) : Option UInt8 := do
  let high ← digitValue? first
  let low ← digitValue? second
  return (high * 16 + low).toUInt8

/-- The octet that a sign and a digit denote. -/
def signed? (first second : UInt8) : Option UInt8 :=
  if first = plus then (digitValue? second).map Nat.toUInt8 else none

theorem digitValue?_plus : digitValue? plus = none := by decide

theorem digitValue?_escape : digitValue? escape = none := by decide

theorem digitValue?_lt {octet : UInt8} {value : Nat} (digit : digitValue? octet = some value) :
    value < 16 := by
  unfold digitValue? at digit
  dsimp only at digit
  split_ifs at digit <;> cases digit <;> omega

/-- The decoder reads two digits, and also a sign and a digit. -/
theorem octet?_eq (first second : UInt8) :
    octet? first second = (hexPair? first second).or (signed? first second) := by
  unfold octet? hexPair? signed?
  by_cases sign : first = plus
  · subst sign
    cases digitValue? second <;> rfl
  · rw [if_neg sign]
    cases digitValue? first with
    | none => cases digitValue? second <;> simp [show first ≠ 0x2b from sign]
    | some high => cases digitValue? second <;> rfl

theorem digits_of_hexPair? {first second denoted : UInt8}
    (read : hexPair? first second = some denoted) :
    (digitValue? first).isSome = true ∧ (digitValue? second).isSome = true := by
  obtain ⟨high, high_eq, read⟩ := Option.bind_eq_some_iff.mp read
  obtain ⟨low, low_eq, -⟩ := Option.bind_eq_some_iff.mp read
  exact ⟨by simp [high_eq], by simp [low_eq]⟩

/-- A sign and a digit denote one of the first sixteen octets. -/
theorem signed?_ne_escape {first second denoted : UInt8}
    (read : signed? first second = some denoted) : denoted ≠ escape := by
  unfold signed? at read
  split at read
  · obtain ⟨value, digit, rfl⟩ := Option.map_eq_some_iff.mp read
    have small := digitValue?_lt digit
    have number : value.toUInt8.toNat = value := Utf8.toNat_toUInt8 (by omega)
    rintro same
    rw [same] at number
    have large : escape.toNat = 0x25 := rfl
    omega
  · cases read

/-! ## Escapes in a row of octets -/

section

variable {denotes : UInt8 → UInt8 → Option UInt8} {octet first second denoted : UInt8}
  {octets decoded : List UInt8}

/-- An escape comes first. -/
def StartsEscape (denotes : UInt8 → UInt8 → Option UInt8) (octets : List UInt8) : Prop :=
  ∃ first second, [escape, first, second] <+: octets ∧ (denotes first second).isSome = true

/-- There is an escape. -/
def HasEscape (denotes : UInt8 → UInt8 → Option UInt8) (octets : List UInt8) : Prop :=
  ∃ first second, [escape, first, second] <:+: octets ∧ (denotes first second).isSome = true

theorem not_hasEscape_nil : ¬ HasEscape denotes [] := by
  rintro ⟨first, second, inside, -⟩
  cases List.infix_nil.mp inside

theorem hasEscape_cons :
    HasEscape denotes (octet :: octets) ↔
      StartsEscape denotes (octet :: octets) ∨ HasEscape denotes octets := by
  simp only [HasEscape, StartsEscape, List.infix_cons_iff, or_and_right, exists_or]

theorem startsEscape_cons :
    StartsEscape denotes (octet :: octets) ↔
      octet = escape ∧ ∃ first second later, octets = first :: second :: later ∧
        (denotes first second).isSome = true := by
  constructor
  · rintro ⟨first, second, begins, read⟩
    obtain ⟨later, same⟩ := begins
    obtain ⟨rfl, rfl⟩ := List.cons.inj same
    exact ⟨rfl, first, second, later, rfl, read⟩
  · rintro ⟨rfl, first, second, later, rfl, read⟩
    exact ⟨first, second, ⟨later, rfl⟩, read⟩

theorem not_startsEscape_of_ne (other : octet ≠ escape) :
    ¬ StartsEscape denotes (octet :: octets) := fun starts =>
  other (startsEscape_cons.mp starts).1

theorem startsEscape_escape :
    StartsEscape denotes (escape :: first :: second :: octets) ↔
      (denotes first second).isSome = true := by
  rw [startsEscape_cons]
  constructor
  · rintro ⟨-, _, _, _, same, read⟩
    cases same
    exact read
  · intro read
    exact ⟨rfl, first, second, octets, rfl, read⟩

theorem startsEscape_octet?_iff :
    StartsEscape octet? octets ↔ StartsEscape hexPair? octets ∨ StartsEscape signed? octets := by
  simp only [StartsEscape, octet?_eq, Option.isSome_or, Bool.or_eq_true, and_or_left, exists_or]

theorem hasEscape_octet?_iff :
    HasEscape octet? octets ↔ HasEscape hexPair? octets ∨ HasEscape signed? octets := by
  simp only [HasEscape, octet?_eq, Option.isSome_or, Bool.or_eq_true, and_or_left, exists_or]

/-! ## The scan -/

/-- The scan from left to right, for a reading of the two octets after `%`. -/
inductive Scans (denotes : UInt8 → UInt8 → Option UInt8) : List UInt8 → List UInt8 → Prop
  /-- Nothing is left. -/
  | done : Scans denotes [] []
  /-- An octet takes the place of an escape. -/
  | replace {first second denoted : UInt8} {octets decoded : List UInt8}
      (read : denotes first second = some denoted) (rest : Scans denotes octets decoded) :
      Scans denotes (escape :: first :: second :: octets) (denoted :: decoded)
  /-- An octet that begins no escape is copied. -/
  | copy {octet : UInt8} {octets decoded : List UInt8}
      (plain : ¬ StartsEscape denotes (octet :: octets)) (rest : Scans denotes octets decoded) :
      Scans denotes (octet :: octets) (octet :: decoded)

theorem scans_replace_iff (read : denotes first second = some denoted) :
    Scans denotes (escape :: first :: second :: octets) decoded ↔
      ∃ later, decoded = denoted :: later ∧ Scans denotes octets later := by
  constructor
  · intro scan
    cases scan with
    | replace again rest =>
      obtain rfl := Option.some.inj (read.symm.trans again)
      exact ⟨_, rfl, rest⟩
    | copy plain rest => exact absurd (startsEscape_escape.mpr (by simp [read])) plain
  · rintro ⟨later, rfl, rest⟩
    exact .replace read rest

theorem scans_copy_iff (plain : ¬ StartsEscape denotes (octet :: octets)) :
    Scans denotes (octet :: octets) decoded ↔
      ∃ later, decoded = octet :: later ∧ Scans denotes octets later := by
  constructor
  · intro scan
    cases scan with
    | replace read rest => exact absurd (startsEscape_escape.mpr (by simp [read])) plain
    | copy plain rest => exact ⟨_, rfl, rest⟩
  · rintro ⟨later, rfl, rest⟩
    exact .copy plain rest

theorem exists_scans (denotes : UInt8 → UInt8 → Option UInt8) (octets : List UInt8) :
    ∃ decoded, Scans denotes octets decoded := by
  induction size : octets.length using Nat.strongRecOn generalizing octets with
  | ind size ih =>
    cases octets with
    | nil => exact ⟨[], .done⟩
    | cons octet octets =>
      by_cases starts : StartsEscape denotes (octet :: octets)
      · obtain ⟨rfl, first, second, later, rfl, read⟩ := startsEscape_cons.mp starts
        obtain ⟨denoted, read⟩ := Option.isSome_iff_exists.mp read
        obtain ⟨decoded, scan⟩ := ih later.length (by simp at size; omega) later rfl
        exact ⟨denoted :: decoded, .replace read scan⟩
      · obtain ⟨decoded, scan⟩ := ih octets.length (by simp at size; omega) octets rfl
        exact ⟨octet :: decoded, .copy starts scan⟩

theorem Scans.unique {other : List UInt8} (scan : Scans denotes octets decoded)
    (again : Scans denotes octets other) : other = decoded := by
  induction scan generalizing other with
  | done =>
    cases again
    rfl
  | replace read _ ih =>
    obtain ⟨later, rfl, rest⟩ := (scans_replace_iff read).mp again
    rw [ih rest]
  | copy plain _ ih =>
    obtain ⟨later, rfl, rest⟩ := (scans_copy_iff plain).mp again
    rw [ih rest]

theorem Scans.length_le (scan : Scans denotes octets decoded) :
    decoded.length ≤ octets.length := by
  induction scan with
  | done => exact Nat.le_refl 0
  | replace _ _ ih =>
    simp only [List.length_cons]
    omega
  | copy _ _ ih => exact Nat.succ_le_succ ih

/-- A scan changes nothing exactly if there is no escape: any other one makes the octets fewer. -/
theorem Scans.eq_self_iff (scan : Scans denotes octets decoded) :
    decoded = octets ↔ ¬ HasEscape denotes octets := by
  induction scan with
  | done => exact iff_of_true rfl not_hasEscape_nil
  | replace read rest _ =>
    refine iff_of_false ?_ (not_not_intro ?_)
    · intro same
      have shorter := rest.length_le
      have lengths := congrArg List.length same
      simp only [List.length_cons] at lengths
      omega
    · exact hasEscape_cons.mpr (.inl (startsEscape_escape.mpr (by simp [read])))
  | copy plain _ ih =>
    rw [List.cons_inj_right, ih, hasEscape_cons, or_iff_right plain]

end

/-! ## The decoder -/

section

variable {octet first second denoted : UInt8}

theorem decode_of_octet? (read : octet? first second = some denoted) (octets : List UInt8) :
    decode (escape :: first :: second :: octets) = denoted :: decode octets := by
  rw [decode, if_pos rfl, read]

theorem decode_of_not_startsEscape {octets : List UInt8}
    (plain : ¬ StartsEscape octet? (octet :: octets)) :
    decode (octet :: octets) = octet :: decode octets := by
  match octets with
  | [] => rfl
  | [_] => rfl
  | first :: second :: later =>
    rw [decode]
    split
    · rename_i same
      subst same
      have unread : octet? first second = none := by
        rwa [startsEscape_escape, Option.not_isSome_iff_eq_none] at plain
      rw [unread]
    · rfl

/-- Whatever is no `%` is copied. -/
theorem decode_append {front : List UInt8} (plain : escape ∉ front) (octets : List UInt8) :
    decode (front ++ octets) = front ++ decode octets := by
  induction front with
  | nil => rfl
  | cons octet front ih =>
    have other : octet ≠ escape := fun same => plain (by simp [same])
    rw [List.cons_append, decode_of_not_startsEscape (not_startsEscape_of_ne other),
      ih fun later => plain (by simp [later]), List.cons_append]

end

theorem scans_decode (octets : List UInt8) : Scans octet? octets (decode octets) := by
  obtain ⟨decoded, scan⟩ := exists_scans octet? octets
  suffices same : decode octets = decoded by rwa [same]
  induction scan with
  | done => rfl
  | replace read _ ih => rw [decode_of_octet? read, ih]
  | copy plain _ ih => rw [decode_of_not_startsEscape plain, ih]

/-- The digits of an escape begin no other one. -/
theorem hasEscape_replace {denotes : UInt8 → UInt8 → Option UInt8} {first second denoted : UInt8}
    (read : hexPair? first second = some denoted) (unread : denotes first second = none)
    (octets : List UInt8) :
    HasEscape denotes (escape :: first :: second :: octets) ↔ HasEscape denotes octets := by
  have ordinary {octet : UInt8} (digit : (digitValue? octet).isSome = true) : octet ≠ escape := by
    rintro rfl
    rw [digitValue?_escape] at digit
    cases digit
  obtain ⟨high, low⟩ := digits_of_hexPair? read
  rw [hasEscape_cons, or_iff_right (by rw [startsEscape_escape, unread]; simp), hasEscape_cons,
    or_iff_right (not_startsEscape_of_ne (ordinary high)), hasEscape_cons,
    or_iff_right (not_startsEscape_of_ne (ordinary low))]

theorem signed?_of_hexPair? {first second denoted : UInt8}
    (read : hexPair? first second = some denoted) : signed? first second = none := by
  refine if_neg ?_
  rintro rfl
  obtain ⟨digit, -⟩ := digits_of_hexPair? read
  rw [digitValue?_plus] at digit
  cases digit

/-- The scan that reads two digits comes to what the decoder makes of the octets exactly if they
hold no escape with a sign: there the decoder replaces what the scan copies. -/
theorem Scans.hexPair_iff {octets decoded : List UInt8} (scan : Scans octet? octets decoded) :
    Scans hexPair? octets decoded ↔ ¬ HasEscape signed? octets := by
  induction scan with
  | done => exact iff_of_true .done not_hasEscape_nil
  | @replace first second denoted octets decoded read rest ih =>
    rw [octet?_eq, Option.or_eq_some_iff] at read
    rcases read with pair | ⟨unpaired, signed⟩
    · rw [hasEscape_replace pair (signed?_of_hexPair? pair), scans_replace_iff pair, ← ih]
      simp
    · have plain : ¬ StartsEscape hexPair? (escape :: first :: second :: octets) := by
        rw [startsEscape_escape, unpaired]
        simp
      refine iff_of_false ?_ (not_not_intro ?_)
      · intro scan
        obtain ⟨later, same, -⟩ := (scans_copy_iff plain).mp scan
        exact signed?_ne_escape signed (List.cons.inj same).1
      · exact hasEscape_cons.mpr (.inl (startsEscape_escape.mpr (by simp [signed])))
  | copy plain rest ih =>
    rw [startsEscape_octet?_iff, not_or] at plain
    obtain ⟨unpaired, unsigned⟩ := plain
    rw [hasEscape_cons, or_iff_right unsigned, scans_copy_iff unpaired, ← ih]
    simp

/-- The decoder is a scan that reads two digits, and a sign and a digit as well. The scan that reads
two digits and nothing else comes to the same exactly if there is no escape with a sign, and the
octets stay as they are exactly if there is no escape of either kind. -/
theorem decode_scans_hexPair_iff (octets : List UInt8) :
    (∀ denotes, ∃! decoded, Scans denotes octets decoded) ∧
    Scans (fun first second => (hexPair? first second).or (signed? first second)) octets
      (decode octets) ∧
    (Scans hexPair? octets (decode octets) ↔ ¬ HasEscape signed? octets) ∧
    (decode octets = octets ↔ ¬ HasEscape hexPair? octets ∧ ¬ HasEscape signed? octets) := by
  have scan : Scans octet? octets (decode octets) := scans_decode octets
  refine ⟨fun denotes => ?_, ?_, scan.hexPair_iff, ?_⟩
  · obtain ⟨decoded, scan⟩ := exists_scans denotes octets
    exact ⟨decoded, scan, fun other again => scan.unique again⟩
  · have both : octet? = fun first second => (hexPair? first second).or (signed? first second) :=
      funext fun first => funext fun second => octet?_eq first second
    rwa [both] at scan
  · rw [scan.eq_self_iff, hasEscape_octet?_iff, not_or]

/-- In `%+5` no two digits follow the `%`, and yet an octet takes their place. -/
theorem signed_escape_replaced :
    let octets := Utf8.encode "%+5".toList
    ¬ HasEscape hexPair? octets ∧ decode octets = [5] ∧
      ¬ Scans hexPair? octets (decode octets) := by
  intro octets
  have octets_eq : octets = [escape, plus, 0x35] := by decide
  have decoded : decode octets = [5] := by decide
  have signed : HasEscape signed? octets := by
    rw [octets_eq]
    exact hasEscape_cons.mpr (.inl (startsEscape_escape.mpr rfl))
  refine ⟨?_, decoded, fun scan => (scans_decode octets).hexPair_iff.mp scan signed⟩
  rw [octets_eq, hasEscape_cons, hasEscape_cons, hasEscape_cons]
  rintro (first | second | third | rest)
  · exact absurd (startsEscape_escape.mp first) (by decide)
  · exact not_startsEscape_of_ne (by decide) second
  · exact not_startsEscape_of_ne (by decide) third
  · exact not_hasEscape_nil rest

end Panes.Text.Percent
