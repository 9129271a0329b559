import Panes.Proofs.Session.Delivery
import Panes.Proofs.Wire.Format

/-!
# Ways to a book or a note

A book can be asked for by a click, by a request, by a broadcast, by a broadcast that is written,
and by a launch; a note by all of these but the click. Each way ends in the same request, and with
it the host displays the pane on its back stack. What comes from outside carries numbers, and only
positive ones make a request.
-/

namespace Panes

/-! ## Requests from outside -/

/-- All numbers of the request are positive. -/
def Request.IsPositive : Request → Prop
  | openBook bookId noteId => 0 < bookId.raw ∧ ∀ note ∈ noteId, 0 < note.raw
  | openNote bookId noteId => 0 < bookId.raw ∧ 0 < noteId.raw
  | _ => True

theorem BookId.positive_of_ofRaw {raw : Int64} {id : BookId} (given : ofRaw? raw = some id) :
    0 < id.raw := by
  obtain ⟨positive, rfl⟩ := ofRaw?_eq_some_iff.mp given
  exact positive

theorem NoteId.positive_of_ofRaw {raw : Int64} {id : NoteId} (given : ofRaw? raw = some id) :
    0 < id.raw := by
  obtain ⟨positive, rfl⟩ := ofRaw?_eq_some_iff.mp given
  exact positive

namespace Intent

theorem isPositive_of_broadcastRequest {intent : Intent} {request : Request}
    (made : intent.broadcastRequest? = some request) : request.IsPositive := by
  unfold broadcastRequest? at made
  split at made
  · obtain ⟨bookId, book_given, made⟩ := Option.bind_eq_some_iff.mp made
    cases made
    exact ⟨BookId.positive_of_ofRaw book_given, nofun⟩
  split at made
  · obtain ⟨bookId, book_given, made⟩ := Option.bind_eq_some_iff.mp made
    obtain ⟨noteId, note_given, made⟩ := Option.bind_eq_some_iff.mp made
    cases made
    exact ⟨BookId.positive_of_ofRaw book_given, NoteId.positive_of_ofRaw note_given⟩
  · cases made

theorem isPositive_of_launchRequests {intent : Intent} {request : Request}
    (made : request ∈ intent.launchRequests) : request.IsPositive := by
  rcases List.mem_cons.mp made with rfl | later
  · trivial
  split at later
  · rename_i bookId book_given
    have book_positive := BookId.positive_of_ofRaw book_given
    split at later
    · rename_i noteId note_given
      have note_positive := NoteId.positive_of_ofRaw note_given
      rcases List.mem_cons.mp later with rfl | last
      · exact ⟨book_positive, fun note same => Option.mem_some_iff.mp same ▸ note_positive⟩
      · rw [List.mem_singleton.mp last]
        exact ⟨book_positive, note_positive⟩
    · rw [List.mem_singleton.mp later]
      exact ⟨book_positive, nofun⟩
  · split at later
    · rw [List.mem_singleton.mp later]
      trivial
    · cases later

/-! ### Intents that ask for a book or a note -/

variable {book note : Int64}

theorem broadcastRequest_openBook (positive : 0 < book) :
    (openBook book).broadcastRequest? = some (.openBook ⟨book⟩ none) := by
  simp [broadcastRequest?, openBook, BookId.ofRaw?, positive]

theorem broadcastRequest_openNote (book_positive : 0 < book) (note_positive : 0 < note) :
    (openNote book note).broadcastRequest? = some (.openNote ⟨book⟩ ⟨note⟩) := by
  simp [broadcastRequest?, openNote, openNoteAction, openBookAction, BookId.ofRaw?, NoteId.ofRaw?,
    book_positive, note_positive]

theorem broadcastRequest_openBook_absent (absent : book ≤ 0) :
    (openBook book).broadcastRequest? = none := by
  have absent : ¬ 0 < book := Int64.not_lt.mpr absent
  simp [broadcastRequest?, openBook, BookId.ofRaw?, absent]

theorem broadcastRequest_openNote_absent (absent : book ≤ 0 ∨ note ≤ 0) :
    (openNote book note).broadcastRequest? = none := by
  have absent : ¬ 0 < book ∨ ¬ 0 < note := by simpa using absent
  rcases absent with book_absent | note_absent
  · simp [broadcastRequest?, openNote, openNoteAction, openBookAction, BookId.ofRaw?, book_absent]
  · simp [broadcastRequest?, openNote, openNoteAction, openBookAction, NoteId.ofRaw?, note_absent]

theorem launchRequests_openBook (positive : 0 < book) :
    (openBook book).launchRequests = [.openBooksList false, .openBook ⟨book⟩ none] := by
  have absent : NoteId.ofRaw? 0 = none := rfl
  simp [launchRequests, openBook, BookId.ofRaw?, positive, absent]

theorem launchRequests_openNote (book_positive : 0 < book) (note_positive : 0 < note) :
    (openNote book note).launchRequests =
      [.openBooksList false, .openBook ⟨book⟩ (some ⟨note⟩), .openNote ⟨book⟩ ⟨note⟩] := by
  simp [launchRequests, openNote, BookId.ofRaw?, NoteId.ofRaw?, book_positive, note_positive]

end Intent

namespace Session

variable (surroundings : Surroundings) (session : Session)

/-- The host displays the pane of a request. -/
def showing (request : Request) : Session :=
  { session with host := session.host.display request.pane request.addsToBackStack }

/-! ## Broadcasts -/

theorem dispatch_broadcast (intent : Intent) :
    session.dispatch surroundings (.broadcast intent) =
      ((intent.broadcastRequest?.map session.showing).getD session, false) := by
  simp only [dispatch, deliver, Coordinator.handle, Coordinator.broadcast]
  cases intent.broadcastRequest? <;> rfl

/-- A written broadcast is the broadcast. -/
theorem dispatch_payload (intent : Intent) :
    session.dispatch surroundings (.broadcastPayload (Intent.format.text intent)) =
      session.dispatch surroundings (.broadcast intent) := by
  have read : Intent.ofText? (Intent.format.text intent) = some intent := intent.ofText_render
  simp only [dispatch, deliver, Coordinator.handle, read]

/-- A click on a book is the broadcast that asks for it: that broadcast is all there is to come
back, and it brings no other. -/
theorem dispatch_bookClicked (bookId : BookId) :
    session.dispatch surroundings (.bookClicked bookId) =
      session.dispatch surroundings (.broadcast (.openBook bookId.raw)) := by
  have clicked : session.deliver surroundings (.bookClicked bookId) =
      ⟨session, false, [.openBook bookId.raw]⟩ := rfl
  have silent :
      (session.deliver surroundings (.broadcast (.openBook bookId.raw))).broadcasts = [] :=
    broadcasts_broadcast _ _ _
  rw [dispatch, clicked, dispatch, silent]
  simp only [List.foldl_cons, List.foldl_nil, deliverBroadcast, Bool.false_or]

/-! ## Launches -/

/-- A launch without a document displays what it asks for, and no more. -/
theorem dispatch_coldStart {intent : Intent} (plain : intent.importAddress? = none) :
    session.dispatch surroundings (.coldStart intent) =
      (intent.launchRequests.foldl showing session, true) := by
  have displays (requests : List Request) :
      (requests.map Request.action).foldl perform session = requests.foldl showing session := by
    rw [List.foldl_map]
    rfl
  have silent (requests : List Request) : broadcasts (requests.map Request.action) = [] := by
    refine List.eq_nil_iff_forall_not_mem.mpr fun intent member => ?_
    obtain ⟨request, -, sent⟩ := List.mem_map.mp (mem_broadcasts.mp member)
    cases sent
  simp only [dispatch, deliver, Coordinator.handle, Coordinator.coldStart, plain, Option.map_none,
    Option.none_or, displays, silent, List.foldl_nil]

/-! ## All ways -/

/-- The events from outside that ask for a book, apart from a launch. -/
def bookMessages (book : Int64) : List Event :=
  [.bookClicked ⟨book⟩, .broadcast (.openBook book),
    .broadcastPayload (Intent.format.text (.openBook book))]

/-- The events from outside that ask for a note, apart from a launch. -/
def noteMessages (book note : Int64) : List Event :=
  [.broadcast (.openNote book note), .broadcastPayload (Intent.format.text (.openNote book note))]

theorem dispatch_bookMessages {book : Int64} {event : Event} (route : event ∈ bookMessages book) :
    session.dispatch surroundings event =
      (((Intent.openBook book).broadcastRequest?.map session.showing).getD session, false) := by
  simp only [bookMessages, List.mem_cons, List.not_mem_nil, or_false] at route
  rcases route with rfl | rfl | rfl
  · rw [dispatch_bookClicked, dispatch_broadcast]
  · rw [dispatch_broadcast]
  · rw [dispatch_payload, dispatch_broadcast]

theorem dispatch_noteMessages {book note : Int64} {event : Event}
    (route : event ∈ noteMessages book note) :
    session.dispatch surroundings event =
      (((Intent.openNote book note).broadcastRequest?.map session.showing).getD session,
        false) := by
  simp only [noteMessages, List.mem_cons, List.not_mem_nil, or_false] at route
  rcases route with rfl | rfl
  · rw [dispatch_broadcast]
  · rw [dispatch_payload, dispatch_broadcast]

/-- All ways to a book, and all ways to a note, lead to the same: the pane is displayed on the back
stack, and that is all; a launch displays it last. Numbers that are not positive lead to nothing
when they come from outside, and no request that is made out of an intent holds one. -/
theorem routes_agree (book note : Int64) :
    (0 < book →
      let request : Request := .openBook ⟨book⟩ none
      let opened := session.showing request
      opened.host.log = session.host.log ++ [.display (.book ⟨book⟩ none) true] ∧
      (∀ event ∈ .navigate request :: bookMessages book,
        session.dispatch surroundings event = (opened, false)) ∧
      session.dispatch surroundings (.coldStart (.openBook book)) =
        ((session.showing (.openBooksList false)).showing request, true)) ∧
    (0 < book → 0 < note →
      let request : Request := .openNote ⟨book⟩ ⟨note⟩
      let opened := session.showing request
      opened.host.log = session.host.log ++ [.display (.note ⟨book⟩ ⟨note⟩) true] ∧
      (∀ event ∈ .navigate request :: noteMessages book note,
        session.dispatch surroundings event = (opened, false)) ∧
      session.dispatch surroundings (.coldStart (.openNote book note)) =
        (((session.showing (.openBooksList false)).showing
          (.openBook ⟨book⟩ (some ⟨note⟩))).showing request, true)) ∧
    (book ≤ 0 → ∀ event ∈ bookMessages book,
      session.dispatch surroundings event = (session, false)) ∧
    (book ≤ 0 ∨ note ≤ 0 → ∀ event ∈ noteMessages book note,
      session.dispatch surroundings event = (session, false)) ∧
    ∀ intent : Intent, ∀ request ∈ intent.broadcastRequest?.toList ++ intent.launchRequests,
      request.IsPositive := by
  refine ⟨?book, ?note, ?noBook, ?noNote, ?positive⟩
  case book =>
    intro positive request opened
    refine ⟨rfl, fun event route => ?_, ?_⟩
    · rcases List.mem_cons.mp route with rfl | message
      · rfl
      · rw [dispatch_bookMessages _ _ message, Intent.broadcastRequest_openBook positive]
        rfl
    · rw [dispatch_coldStart _ _ rfl, Intent.launchRequests_openBook positive]
      rfl
  case note =>
    intro book_positive note_positive request opened
    refine ⟨rfl, fun event route => ?_, ?_⟩
    · rcases List.mem_cons.mp route with rfl | message
      · rfl
      · rw [dispatch_noteMessages _ _ message,
          Intent.broadcastRequest_openNote book_positive note_positive]
        rfl
    · rw [dispatch_coldStart _ _ rfl, Intent.launchRequests_openNote book_positive note_positive]
      rfl
  case noBook =>
    intro absent event message
    rw [dispatch_bookMessages _ _ message, Intent.broadcastRequest_openBook_absent absent]
    rfl
  case noNote =>
    intro absent event message
    rw [dispatch_noteMessages _ _ message, Intent.broadcastRequest_openNote_absent absent]
    rfl
  case positive =>
    intro intent request made
    rcases List.mem_append.mp made with broadcast | launch
    · exact Intent.isPositive_of_broadcastRequest (Option.mem_toList.mp broadcast)
    · exact Intent.isPositive_of_launchRequests launch

end Session

end Panes
