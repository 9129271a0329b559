import Mathlib.Logic.Function.Basic
import Panes.Proofs.Search.Prefill

/-!
# Search tokens read back

`takeToken?` reads the token that a search goes on with: up to the next quote that is not escaped if
it begins with one, and up to the next blank otherwise. A token as it is written by `quote` is read
as itself when a blank follows, and nothing behind it is touched. So what is typed behind the search
for a book leaves the book as it is.
-/

namespace Panes.Search

/-! ## Reading a token -/

/-- What a character after a backslash stands for. Only the escapes that are written have a
meaning; all else stays as it is. -/
def unescape : Char → List Char
  | '"' => ['"']
  | '\\' => ['\\']
  | 'n' => ['\n']
  | 'r' => ['\r']
  | 't' => ['\t']
  | char => ['\\', char]

/-- Read a quoted token on, up to the quote that closes it: the token, and what follows. -/
def takeQuoted? : List Char → Option (List Char × List Char)
  | [] => none
  | '"' :: rest => some ([], rest)
  | '\\' :: char :: rest =>
    (takeQuoted? rest).map fun (token, later) => (unescape char ++ token, later)
  | char :: rest => (takeQuoted? rest).map fun (token, later) => (char :: token, later)

/-- Read a token: the token, and what follows. -/
def takeToken? : List Char → Option (List Char × List Char)
  | '"' :: rest => takeQuoted? rest
  | text => some (text.takeWhile (!Text.isBlank ·), text.dropWhile (!Text.isBlank ·))

/-- Read a token: the token, and what follows. -/
def read? (text : String) : Option (String × String) :=
  (takeToken? text.toList).map fun (token, later) => (String.ofList token, String.ofList later)

/-- The book that a search for a book names, and what follows. -/
def scopedBook? (text : String) : Option (String × String) :=
  match text.toList with
  | 'b' :: '.' :: rest => read? (String.ofList rest)
  | _ => none

/-! ## Reading what is written -/

theorem takeQuoted_plain {char : Char} (unquoted : char ≠ '"') (unescaped : char ≠ '\\')
    (text : List Char) :
    takeQuoted? (char :: text) =
      (takeQuoted? text).map fun (token, later) => (char :: token, later) := by
  rw [takeQuoted?]
  · exact unquoted
  · rintro _ _ rfl
    exact absurd rfl unescaped

/-- A character that is written between quotes is read as itself. -/
theorem takeQuoted_escape (char : Char) (text : List Char) :
    takeQuoted? (escape char ++ text) =
      (takeQuoted? text).map fun (token, later) => (char :: token, later) := by
  unfold escape
  split
  · rfl
  · rfl
  · rfl
  · rfl
  · rfl
  · rename_i unquoted unescaped _ _ _
    exact takeQuoted_plain unquoted unescaped text

/-- The quotes around a token close behind its last character. -/
theorem takeQuoted_escaped (token later : List Char) :
    takeQuoted? (token.flatMap escape ++ '"' :: later) = some (token, later) := by
  induction token with
  | nil => rfl
  | cons char token ih =>
    rw [List.flatMap_cons, List.append_assoc, takeQuoted_escape, ih]
    rfl

theorem takeToken_of_unquoted {text : List Char} (unquoted : text.head? ≠ some '"') :
    takeToken? text =
      some (text.takeWhile (!Text.isBlank ·), text.dropWhile (!Text.isBlank ·)) := by
  rw [takeToken?]
  rintro rest rfl
  exact unquoted rfl

/-- A token that needs no quotes ends where a blank follows, or nothing. -/
theorem takeToken_bare {token later : List Char} (bare : needsQuotes token = false)
    (separated : ∀ char ∈ later.head?, Text.isBlank char = true) :
    takeToken? (token ++ later) = some (token, later) := by
  obtain ⟨filled, plain⟩ := Bool.or_eq_false_iff.mp bare
  have visible : ∀ char ∈ token, (!Text.isBlank char) = true := fun char member => by
    have ordinary := List.any_eq_false.mp plain char member
    rw [Bool.or_eq_true, not_or] at ordinary
    simpa using ordinary.1
  have unquoted : (token ++ later).head? ≠ some '"' := by
    cases token with
    | nil => cases filled
    | cons first token =>
      have ordinary := List.any_eq_false.mp plain first List.mem_cons_self
      rw [Bool.or_eq_true, not_or] at ordinary
      intro same
      obtain rfl : first = '"' := Option.some.inj same
      exact ordinary.2 (by decide)
  have taken : later.takeWhile (!Text.isBlank ·) = [] ∧
      later.dropWhile (!Text.isBlank ·) = later := by
    cases later with
    | nil => exact ⟨rfl, rfl⟩
    | cons char later =>
      have blank := separated char rfl
      simp [blank]
  rw [takeToken_of_unquoted unquoted, List.takeWhile_append_of_pos visible,
    List.dropWhile_append_of_pos visible, taken.1, taken.2, List.append_nil]

/-- A written token is read as itself where a blank follows, or nothing. -/
theorem takeToken_quoteChars (token : List Char) {later : List Char}
    (separated : ∀ char ∈ later.head?, Text.isBlank char = true) :
    takeToken? (quoteChars token ++ later) = some (token, later) := by
  unfold quoteChars
  cases quoted : needsQuotes token with
  | true =>
    rw [if_pos rfl, List.cons_append, List.append_assoc, takeToken?]
    exact takeQuoted_escaped token later
  | false =>
    rw [if_neg (by simp)]
    exact takeToken_bare quoted separated

theorem read_quote (name rest : String) :
    read? (quote name ++ " " ++ rest) = some (name, " " ++ rest) := by
  have text_eq : (quote name ++ " " ++ rest).toList =
      quoteChars name.toList ++ ' ' :: rest.toList := by
    simp [quote]
  have taken : takeToken? (quoteChars name.toList ++ ' ' :: rest.toList) =
      some (name.toList, ' ' :: rest.toList) :=
    takeToken_quoteChars name.toList (by simp; decide)
  rw [read?, text_eq, taken]
  simp

theorem quote_injective : Function.Injective quote := by
  intro name other same
  have read := read_quote name ""
  rw [same, read_quote] at read
  simpa using read.symm

theorem bookScope_injective : Function.Injective bookScope := by
  intro name other same
  exact quote_injective ((String.append_right_inj "b.").mp same)

theorem scopedBook_bookScope (name rest : String) :
    scopedBook? (bookScope name ++ " " ++ rest) = some (name, " " ++ rest) := by
  have text_eq : (bookScope name ++ " " ++ rest).toList =
      'b' :: '.' :: (quote name ++ " " ++ rest).toList := by
    simp [bookScope]
  rw [scopedBook?, text_eq]
  simp only [String.ofList_toList]
  exact read_quote name rest

/-- A token is read back from what is written for it and a space, whatever follows, and what follows
is left over. So different names are written differently, and behind the text that the search box
starts with for a book the user can type anything: the search is still for that book. -/
theorem quoted_token_stands_apart :
    (∀ name rest, read? (quote name ++ " " ++ rest) = some (name, " " ++ rest)) ∧
    Function.Injective quote ∧ Function.Injective bookScope ∧
    ∀ (router : Router) (visible : Option Pane) (bookName : BookId → Option String)
      (bookId : BookId) (place : Option NoteId) (name typed : String),
      visible.or router.current = some (.book bookId place) → bookName bookId = some name →
        scopedBook? (router.searchPrefill visible bookName ++ typed) =
          some (name, " " ++ typed) := by
  refine ⟨read_quote, quote_injective, bookScope_injective, ?_⟩
  intro router visible bookName bookId place name typed searched named
  have offered : router.Offers visible bookName (bookScope name) :=
    .inr ⟨bookId, place, name, searched, named, rfl⟩
  rw [Router.searchPrefill_of_offers offered]
  exact scopedBook_bookScope name typed

/-- The name of the book looks like the end of a token and more, and so does what is typed. -/
theorem scope_survives_quotes :
    let router : Router := ⟨some (.book ⟨7⟩ none)⟩
    let bookName : BookId → Option String := fun _ => some "a\\\" b"
    let typed := "\" b.c"
    none.or router.current = some (.book ⟨7⟩ none) ∧ bookName ⟨7⟩ = some "a\\\" b" ∧
      scopedBook? (router.searchPrefill none bookName ++ typed) =
        some ("a\\\" b", " " ++ typed) := by
  intro router bookName typed
  exact ⟨rfl, rfl,
    quoted_token_stands_apart.2.2.2 router none bookName ⟨7⟩ none "a\\\" b" typed rfl rfl⟩

end Panes.Search
