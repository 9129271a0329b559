import Panes.Document
import Panes.Proofs.Text.Percent

/-!
# Names written into addresses

Whoever writes a name into an address may escape any of its characters octet by octet, and has to
escape those that an address is cut at. Then no cut falls into the written name, and the octets that
come out of it are those of the name, whichever characters were escaped.
-/

namespace Panes.Document

open Text

/-! ## Writing a name -/

/-- The characters that an address is cut at. -/
def separators : List Char := ['/', '?', '#']

/-- The hexadecimal digit with this value, in either case. -/
def digits (value : Nat) : List Char := [Nat.digitChar value, (Nat.digitChar value).toUpper]

/-- The octets are written as escapes, one after another. -/
inductive Escapes : List UInt8 → List Char → Prop
  | nil : Escapes [] []
  | cons {octet : UInt8} {high low : Char} {octets : List UInt8} {written : List Char}
      (upper : high ∈ digits (octet.toNat / 16)) (lower : low ∈ digits (octet.toNat % 16))
      (rest : Escapes octets written) :
      Escapes (octet :: octets) ('%' :: high :: low :: written)

/-- The name is written into an address: a character stays as it is, or all of its octets are
escaped. `%` and the separators are always escaped. -/
inductive Encodes : List Char → List Char → Prop
  | nil : Encodes [] []
  | plain {char : Char} {name written : List Char} (free : char ∉ '%' :: separators)
      (rest : Encodes name written) : Encodes (char :: name) (char :: written)
  | escaped {char : Char} {name front written : List Char}
      (escapes : Escapes (Utf8.encodeChar char) front) (rest : Encodes name written) :
      Encodes (char :: name) (front ++ written)

section

variable {value : Nat} {char mark : Char} {octets : List UInt8} {name written : List Char}

theorem digitValue?_digit (small : value < 16) (digit : char ∈ digits value) :
    ∃ octet, Utf8.encodeChar char = [octet] ∧ Percent.digitValue? octet = some value := by
  have every : ∀ value < 16, (digits value).all
      (fun char => (Utf8.encodeChar char).map Percent.digitValue? = [some value]) = true := by
    decide
  have read := of_decide_eq_true (List.all_eq_true.mp (every value small) char digit)
  obtain ⟨octet, single, value_eq⟩ := List.map_eq_singleton_iff.mp read
  exact ⟨octet, single, value_eq⟩

/-- No digit is a separator. -/
theorem digit_notMem_separators (small : value < 16) (digit : char ∈ digits value) :
    char ∉ separators := by
  have every : ∀ value < 16, (digits value).all (· ∉ separators) = true := by decide
  exact of_decide_eq_true (List.all_eq_true.mp (every value small) char digit)

/-- The decoder undoes the escapes, whatever follows them. -/
theorem decode_escapes (escapes : Escapes octets written) (later : List UInt8) :
    Percent.decode (Utf8.encode written ++ later) = octets ++ Percent.decode later := by
  induction escapes with
  | nil => rfl
  | @cons octet high low octets written upper lower _ ih =>
    have small := octet.toNat_lt
    obtain ⟨first, first_eq, high_eq⟩ := digitValue?_digit (by omega) upper
    obtain ⟨second, second_eq, low_eq⟩ := digitValue?_digit (by omega) lower
    have written_eq : Utf8.encode ('%' :: high :: low :: written) =
        Percent.escape :: first :: second :: Utf8.encode written := by
      simp only [Utf8.encode, List.flatMap_cons, first_eq, second_eq]
      rfl
    have read : Percent.octet? first second = some octet := by
      rw [Percent.octet?, high_eq, low_eq]
      simp only [Nat.div_add_mod', Option.some.injEq]
      exact UInt8.ofNat_toNat
    rw [written_eq, List.cons_append, List.cons_append, List.cons_append,
      Percent.decode_of_octet? read, ih, List.cons_append]

/-- The octets of a name come out of what is written for it. -/
theorem decode_encodes (encodes : Encodes name written) :
    Percent.decode (Utf8.encode written) = Utf8.encode name := by
  induction encodes with
  | nil => rfl
  | @plain char name written free _ ih =>
    have unescaped : Percent.escape ∉ Utf8.encodeChar char := by
      refine Utf8.octet_notMem_encodeChar (by decide) fun code => free ?_
      rw [← Char.ofNat_toNat char, code]
      decide
    rw [Utf8.encode, List.flatMap_cons, ← Utf8.encode, Percent.decode_append unescaped, ih]
    rfl
  | escaped escapes _ ih =>
    rw [Utf8.encode_append, decode_escapes escapes, ih]
    rfl

theorem separator_notMem_escapes (escapes : Escapes octets written)
    (separator : mark ∈ separators) : mark ∉ written := by
  have other {char : Char} (free : char ∉ separators) : mark ≠ char := by
    rintro rfl
    exact free separator
  induction escapes with
  | nil => simp
  | @cons octet _ _ _ _ upper lower _ ih =>
    have small := octet.toNat_lt
    have sign : mark ≠ '%' := other (by decide)
    have high := other (digit_notMem_separators (by omega) upper)
    have low := other (digit_notMem_separators (by omega) lower)
    simp [sign, high, low, ih]

/-- An address is not cut inside a written name. -/
theorem separator_notMem_encodes (encodes : Encodes name written)
    (separator : mark ∈ separators) : mark ∉ written := by
  induction encodes with
  | nil => simp
  | @plain char _ _ free _ ih =>
    have other : mark ≠ char := by
      rintro rfl
      exact free (List.mem_cons_of_mem '%' separator)
    simp [other, ih]
  | escaped escapes _ ih =>
    rw [List.mem_append, not_or]
    exact ⟨separator_notMem_escapes escapes separator, ih⟩

end

/-! ## Cutting an address -/

section

variable {mark : Char} {front : List Char}

theorem before_append (free : mark ∉ front) (later : List Char) :
    before mark (front ++ later) = front ++ before mark later := by
  refine List.takeWhile_append_of_pos fun char member => ?_
  rw [bne_iff_ne]
  rintro rfl
  exact free member

theorem afterLast_append (free : mark ∉ front) (folder : List Char) :
    afterLast mark (folder ++ mark :: front) = front := by
  have reversed : (folder ++ mark :: front).reverse = front.reverse ++ mark :: folder.reverse := by
    simp
  have cut := before_append (mt List.mem_reverse.mp free) (mark :: folder.reverse)
  rw [before, before, List.takeWhile_cons_of_neg (by simp), List.append_nil] at cut
  rw [afterLast, reversed, cut, List.reverse_reverse]

end

/-- What comes behind the path of an address: nothing, a query, or a fragment. -/
def Tail (tail : List Char) : Prop :=
  tail = [] ∨ ∃ rest, tail = '?' :: rest ∨ tail = '#' :: rest

theorem path_of_tail {path tail : List Char} (unasked : '?' ∉ path) (unmarked : '#' ∉ path)
    (ended : Tail tail) : before '?' (before '#' (path ++ tail)) = path := by
  rw [before_append unmarked, before_append unasked]
  have nothing : before '?' (before '#' tail) = [] := by
    obtain rfl | ⟨rest, rfl | rfl⟩ := ended <;> simp [before]
  rw [nothing, List.append_nil]

theorem lastSegment_of_encodes {path name written tail : List Char} (unasked : '?' ∉ path)
    (unmarked : '#' ∉ path) (encodes : Encodes name written) (ended : Tail tail) :
    lastSegment (path ++ '/' :: written ++ tail) = afterLast '/' name := by
  have free {mark : Char} (separator : mark ∈ separators) : mark ∉ written :=
    separator_notMem_encodes encodes separator
  have question : '?' ∉ written := free (by decide)
  have hash : '#' ∉ written := free (by decide)
  have cut : before '?' (before '#' (path ++ '/' :: written ++ tail)) = path ++ '/' :: written :=
    path_of_tail (by simp [unasked, question]) (by simp [unmarked, hash]) ended
  rw [lastSegment, cut, afterLast_append (free (by decide)), decode_encodes encodes,
    Utf8.decodeLossy_encode]

theorem fileName?_eq (address : String) :
    fileName? address =
      if trim (lastSegment address.toList) = [] then none
      else some (String.ofList (trim (lastSegment address.toList))) := by
  rw [fileName?]
  cases trim (lastSegment address.toList) with
  | nil => rfl
  | cons char rest => rfl

/-- A name that was written into an address behind the last slash of its path is found there, and
its own last part is the file name, blanks trimmed off, unless it is blank. -/
theorem written_name_recovered {path name written tail : String} (unasked : '?' ∉ path.toList)
    (unmarked : '#' ∉ path.toList) (encodes : Encodes name.toList written.toList)
    (ended : Tail tail.toList) :
    fileName? (path ++ "/" ++ written ++ tail) =
      if trim (afterLast '/' name.toList) = [] then none
      else some (String.ofList (trim (afterLast '/' name.toList))) := by
  have address_eq : (path ++ "/" ++ written ++ tail).toList =
      path.toList ++ '/' :: written.toList ++ tail.toList := by
    simp
  rw [fileName?_eq, address_eq, lastSegment_of_encodes unasked unmarked encodes ended]

/-- The slash, a character of two octets and a blank are escaped, digits stand in both cases, and
the query holds separators. -/
theorem written_path_recovered :
    let path := "content://a%b"
    let name := "x/é "
    let written := "x%2F%C3%a9%20"
    let tail := "?a/b#c"
    '?' ∉ path.toList ∧ '#' ∉ path.toList ∧ Encodes name.toList written.toList ∧
      Tail tail.toList ∧ fileName? (path ++ "/" ++ written ++ tail) = some "é" := by
  intro path name written tail
  have unasked : '?' ∉ path.toList := by decide
  have unmarked : '#' ∉ path.toList := by decide
  have encodes : Encodes name.toList written.toList := by
    have slash : Escapes (Utf8.encodeChar '/') ['%', '2', 'F'] :=
      .cons (by decide) (by decide) .nil
    have accented : Escapes (Utf8.encodeChar 'é') ['%', 'C', '3', '%', 'a', '9'] :=
      .cons (by decide) (by decide) (.cons (by decide) (by decide) .nil)
    have blank : Escapes (Utf8.encodeChar ' ') ['%', '2', '0'] :=
      .cons (by decide) (by decide) .nil
    have name_eq : name.toList = ['x', '/', 'é', ' '] := by decide
    have written_eq : written.toList = 'x' :: (['%', '2', 'F'] ++
        (['%', 'C', '3', '%', 'a', '9'] ++ (['%', '2', '0'] ++ []))) := by decide
    rw [name_eq, written_eq]
    exact .plain (by decide) (.escaped slash (.escaped accented (.escaped blank .nil)))
  have ended : Tail tail.toList := .inr ⟨"a/b#c".toList, .inl (by decide)⟩
  refine ⟨unasked, unmarked, encodes, ended, ?_⟩
  rw [written_name_recovered unasked unmarked encodes ended]
  decide

end Panes.Document
