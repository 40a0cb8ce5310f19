import FormEngine.Config.Load
import FormEngine.Proofs.Files.Appending
import FormEngine.Proofs.Json.Characters
import FormEngine.Proofs.Json.Fields
import FormEngine.Proofs.Text.Lines

/-!
Files of diagnostic events. Whatever texts an event carries, its line holds no line break of its
own, so behind a file that is empty or ends with a line break the lines are the events, one each and
in the order of recording. A line that is read as JSON gives back its event, and no other event has
that line.
-/

namespace FormEngine

namespace Diagnostics

/-- An event with the time that it was stamped with. -/
structure Entry where
  time : Nat
  event : Event
  deriving DecidableEq

section Reading

def textOf? : Json → Option String
  | .str text => some text
  | _ => none

def countOf? : Json → Option Nat
  | .num (.integer (.ofNat value)) => some value
  | _ => none

def phaseOf? (label : String) : Option Integration.Phase :=
  Integration.Phase.all.find? fun phase => phase.label == label

variable (document : Json)

def happeningOf? : Option Integration.Happening :=
  match document.get? "event", document.get? "phase", document.get? "message" with
  | some (.str "integration_transition"), some (.str label), some .null =>
      (phaseOf? label).map .entered
  | some (.str "integration_rejected"), some .null, some .null => some .rejected
  | some (.str "integration_failed"), some .null, some (.str message) => some (.failed message)
  | _, _, _ => none

def integrationOf? : Option Integration.Event := do
  let integration ← (document.get? "integration").bind countOf?
  let endpoint ← (document.get? "endpoint").bind textOf?
  let happening ← happeningOf? document
  some ⟨integration, endpoint, happening⟩

def autoSaveOf? : Option AutoSave.Event :=
  match document.get? "event", document.get? "key", document.get? "bytes",
      document.get? "reason" with
  | some (.str "autosave_saved"), some (.str key), some bytes, some .null =>
      (countOf? bytes).map (.saved key)
  | some (.str "autosave_skipped"), some (.str key), some .null, some (.str reason) =>
      some (.skipped key reason)
  | _, _, _, _ => none

/-- What a reader of the file makes of the value of a line. -/
def Entry.ofJson? : Option Entry := do
  let time ← (document.get? "timestamp_ms").bind countOf?
  let event ← ((integrationOf? document).map Event.integration).or
    ((autoSaveOf? document).map Event.autoSave)
  some ⟨time, event⟩

end Reading

section Told

variable (time : Nat)

theorem phase_told (phase : Integration.Phase) : phaseOf? phase.label = some phase := by
  cases phase <;> rfl

theorem integration_told (event : Integration.Event) :
    integrationOf? (Json.ofMembers (event.fields time)) = some event := by
  obtain ⟨integration, endpoint, happening⟩ := event
  have happened : happeningOf? (Json.ofMembers
      (Integration.Event.fields time ⟨integration, endpoint, happening⟩)) = some happening := by
    cases happening <;>
      simp [happeningOf?, Json.get_member, Integration.Event.fields, Integration.Event.name,
        Integration.Event.phase?, Integration.Event.message?, Json.ofOption, Keyed.find?,
        phase_told]
  rw [integrationOf?, happened]
  simp [Json.get_member, Integration.Event.fields, Keyed.find?, countOf?, textOf?, Json.ofNat]

theorem auto_save_told (event : AutoSave.Event) :
    autoSaveOf? (Json.ofMembers (event.fields time)) = some event := by
  cases event <;>
    simp [autoSaveOf?, Json.get_member, AutoSave.Event.fields, AutoSave.Event.name,
      AutoSave.Event.key, AutoSave.Event.bytes?, AutoSave.Event.reason?, Json.ofOption,
      Keyed.find?, countOf?, Json.ofNat]

end Told

namespace Entry

variable (entry : Entry)

def fields : List (String × Json) := entry.event.fields entry.time

def line : String := entry.event.line entry.time

/-- The position of an integration or the size of what was saved. -/
def count? : Option Nat :=
  match entry.event with
  | .integration event => some event.integration
  | .autoSave event => event.bytes?

/-- A JSON value holds integers of 64 bits. Positions and sizes have no more, and a clock of
milliseconds needs them all only after half a billion years. -/
def Fits : Prop :=
  entry.time < Nat.pow 2 64 ∧ ∀ count ∈ entry.count?, count < Nat.pow 2 64

instance : Decidable entry.Fits := inferInstanceAs (Decidable (_ ∧ _))

theorem line_compact : entry.line = (Json.obj entry.fields).compact := rfl

/-- The line break of an event ends its line, and no other does. -/
theorem line_unbroken : '\n' ∉ entry.line.toList :=
  Json.compact_on_one_line (.obj entry.fields)

theorem fields_scalar : ∀ member ∈ entry.fields, Json.Scalar member.2 := by
  have texts := Json.Scalar.ofOption Json.str Json.Scalar.str
  have sizes := Json.Scalar.ofOption Json.ofNat Json.Scalar.count
  have labels := Json.Scalar.ofOption (fun phase : Integration.Phase => Json.str phase.label)
    fun phase => .str phase.label
  unfold fields Event.fields
  split
  · simp [Integration.Event.fields, Json.Scalar.count, Json.Scalar.str, texts, labels]
  · simp [AutoSave.Event.fields, Json.Scalar.count, Json.Scalar.str, texts, sizes]

theorem fields_well_formed (fits : entry.Fits) : Json.WellFormedMembers entry.fields := by
  obtain ⟨time, event⟩ := entry
  obtain ⟨early, small⟩ := fits
  have stamped := Json.count_well_formed time early
  have texts := fun held => Json.option_well_formed Json.str held fun _ _ => trivial
  cases event with
  | integration event =>
      have placed := Json.count_well_formed event.integration (small _ rfl)
      have labels := Json.option_well_formed
        (fun phase : Integration.Phase => Json.str phase.label) event.phase? fun _ _ => trivial
      exact ⟨trivial, stamped, placed, trivial, labels, texts event.message?, trivial⟩
  | autoSave event =>
      have sizes := Json.option_well_formed Json.ofNat event.bytes? fun bytes held =>
        Json.count_well_formed bytes (small bytes held)
      exact ⟨trivial, stamped, trivial, sizes, texts event.reason?, trivial⟩

theorem line_read (fits : entry.Fits) :
    Json.read? entry.line = some (Json.ofMembers entry.fields) := by
  have exact : Json.ExactMembers entry.fields :=
    (Json.exact_members_iff _).mpr fun member listed => (entry.fields_scalar member listed).exact
  rw [line_compact]
  exact Json.object_read entry.fields (entry.fields_well_formed fits) exact

theorem fields_stamped :
    (Json.ofMembers entry.fields).get? "timestamp_ms" = some (.ofNat entry.time) := by
  obtain ⟨time, event⟩ := entry
  cases event <;>
    simp [fields, Event.fields, Integration.Event.fields, AutoSave.Event.fields, Json.get_member,
      Keyed.find?]

theorem fields_told : ofJson? (Json.ofMembers entry.fields) = some entry := by
  rw [ofJson?, fields_stamped]
  obtain ⟨time, event⟩ := entry
  cases event with
  | integration event =>
      have told : integrationOf? (Json.ofMembers (fields ⟨time, .integration event⟩)) =
          some event := integration_told time event
      simp [told, countOf?, Json.ofNat]
  | autoSave event =>
      have told : autoSaveOf? (Json.ofMembers (fields ⟨time, .autoSave event⟩)) = some event :=
        auto_save_told time event
      have unplaced :
          (Json.ofMembers (fields ⟨time, .autoSave event⟩)).get? "integration" = none := by
        simp [fields, Event.fields, AutoSave.Event.fields, Json.get_member, Keyed.find?]
      simp [told, integrationOf?, unplaced, countOf?, Json.ofNat]

theorem line_apart (other : Entry) (same : other.line = entry.line) : other = entry := by
  have fields : other.fields = entry.fields :=
    Json.object_apart _ _ other.fields_scalar entry.fields_scalar same
  have told := other.fields_told
  rw [fields, entry.fields_told] at told
  exact (Option.some.inj told).symm

end Entry

section Lines

variable (entries : List Entry)

/-- What the recording of events adds to a file. -/
def added : List Entry → String
  | [] => ""
  | entry :: rest => record entry.time entry.event "" ++ added rest

theorem added_chars : (added entries).toList =
    (entries.map fun entry => entry.line.toList).flatMap fun line => line ++ ['\n'] := by
  induction entries with
  | nil => rfl
  | cons entry rest ih =>
      rw [added, String.toList_append, ih, List.map_cons, List.flatMap_cons]
      simp [record, Entry.line]

theorem added_bytes : Text.bytes (added entries) =
    (entries.map fun entry => Text.bytes entry.line).flatMap fun line =>
      line ++ [Text.newline] := by
  induction entries with
  | nil => rfl
  | cons entry rest ih =>
      rw [added, Text.bytes_append, ih, List.map_cons, List.flatMap_cons, record,
        String.empty_append, Text.bytes_of_line]
      rfl

theorem added_lines : Text.endedLines '\n' (added entries).toList =
    (entries.map fun entry => entry.line.toList, []) := by
  rw [added_chars]
  exact Text.all_lines_ended '\n' _ (List.forall_mem_map.mpr fun entry _ => entry.line_unbroken)

theorem added_byte_lines : Text.endedLines Text.newline (Text.bytes (added entries)) =
    (entries.map fun entry => Text.bytes entry.line, []) := by
  rw [added_bytes]
  exact Text.all_lines_ended Text.newline _ (List.forall_mem_map.mpr fun entry _ =>
    Text.bytes_hold_no_newline entry.line entry.line_unbroken)

end Lines

/-- A file in which events were recorded behind what it held. What was added splits into one line an
event, and so do the bytes of the whole file behind the lines that were there. A line that is read
as JSON has the fields of its event and no others, which give the event back; where a count is too
large for that, the line is still the line of no other event. -/
structure Framed (held : ByteArray) (entries : List Entry) (content : ByteArray) : Prop where
  kept : content = held ++ (added entries).toUTF8
  lines : Text.endedLines '\n' (added entries).toList =
    (entries.map fun entry => entry.line.toList, [])
  stored : Text.endedLines Text.newline content.data.toList =
    ((Text.endedLines Text.newline held.data.toList).1 ++
      entries.map fun entry => Text.bytes entry.line, [])
  read : ∀ entry ∈ entries, entry.Fits →
    Json.read? entry.line = some (Json.ofMembers entry.fields) ∧
      Entry.ofJson? (Json.ofMembers entry.fields) = some entry
  apart : ∀ entry ∈ entries, ∀ other : Entry, other.line = entry.line → other = entry

end Diagnostics

namespace Config

open Diagnostics

/-- Events through one sink, one after the other. -/
def Sink.recordEach (sink : Sink) (entries : List Entry) (tree : FileTree) : FileTree :=
  entries.foldl (fun tree entry => sink.record entry.time entry.event tree) tree

section Files

variable (path : String)

theorem record_appended (time : Nat) (event : Event) (tree : FileTree) (held : ByteArray)
    (here : tree.read? path = some held) :
    ((Sink.file path).record time event tree).read? path =
      some (held ++ (Diagnostics.record time event "").toUTF8) := by
  obtain ⟨next, taken⟩ :=
    tree.append_taken path held (Diagnostics.record time event "").toUTF8 here
  have read := tree.append_read path next _ taken
  rw [here] at read
  rw [Sink.record, taken]
  exact read

-- The tree and what the file holds change with every record, so the induction is for all of them.
theorem each_appended (entries : List Entry) (tree : FileTree) (held : ByteArray)
    (here : tree.read? path = some held) :
    ((Sink.file path).recordEach entries tree).read? path =
      some (held ++ (added entries).toUTF8) := by
  induction entries generalizing tree held with
  | nil => simpa [Sink.recordEach, added] using here
  | cons entry rest ih =>
      have first := record_appended path entry.time entry.event tree held here
      have later := ih _ _ first
      rw [ByteArray.append_assoc] at later
      simpa [Sink.recordEach, added] using later

/-- Events that are recorded at one time. -/
theorem record_all_each (config : Config) (time : Nat) (events : List Event)
    (tree opened : FileTree) (built : config.buildSink tree = .ok (.file path, opened)) :
    ∃ lines, config.recordAll time events tree =
      .ok (lines, (Sink.file path).recordEach (events.map (Entry.mk time)) opened) := by
  simp [recordAll, built, Sink.recordEach, List.foldl_map]

/-- The file of a sink that was built holds what it held before, if it was there. -/
theorem built_read (config : Config) (tree opened : FileTree)
    (built : config.buildSink tree = .ok (.file path, opened)) :
    opened.read? path = some ((tree.read? path).getD .empty) := by
  unfold buildSink at built
  split at built
  · cases built
  · split at built
    · rename_i next taken
      cases built
      simpa using tree.append_read path opened _ taken
    · cases built
  · cases built

end Files

/-- Lines of a diagnostics file can be told apart and read back, whatever the events carry. -/
theorem events_framed (config : Config) (path : String) (tree opened : FileTree)
    (built : config.buildSink tree = .ok (.file path, opened))
    (whole : ∀ last ∈ ((tree.read? path).getD .empty).data.toList.getLast?, last = Text.newline)
    (entries : List Entry) :
    ∃ content, ((Sink.file path).recordEach entries opened).read? path = some content ∧
      Framed ((tree.read? path).getD .empty) entries content := by
  have before := built_read path config tree opened built
  refine ⟨_, each_appended path entries opened _ before, rfl, added_lines entries, ?_, ?_, ?_⟩
  · have closed := Text.ended_whole Text.newline _ whole
    have split := Text.ended_append Text.newline _ (Text.bytes (added entries)) closed
    rw [added_byte_lines] at split
    rw [ByteArray.data_append, Array.toList_append]
    exact split
  · intro entry _ fits
    exact ⟨entry.line_read fits, entry.fields_told⟩
  · intro entry _ other same
    exact entry.line_apart other same

def recordingSettings : Config :=
  { Config.standard with diagnostics := ⟨.file, some "events.jsonl"⟩ }

def begunTree : FileTree :=
  ⟨.directory [("tmp", .directory [("forms-work", .directory
    [("events.jsonl", .file (.bytes "[]\n".toUTF8))])])]⟩

/-- A message that has the look of an event behind a line break, and a reason with controls. -/
def forgingEntries : List Entry :=
  [⟨1700000000000, .integration ⟨0, "fetch\"Straße\"",
      .failed "down\n\x7b\"event\":\"integration_rejected\"\x7d\n"⟩⟩,
    ⟨1700000000300, .autoSave (.skipped "draft\\1" "too\tlarge\r\n…")⟩]

theorem forgery_framed :
    ∃ opened content, recordingSettings.buildSink begunTree = .ok (.file "events.jsonl", opened) ∧
      ((Sink.file "events.jsonl").recordEach forgingEntries opened).read? "events.jsonl" =
        some content ∧
      Framed "[]\n".toUTF8 forgingEntries content ∧ ∀ entry ∈ forgingEntries, entry.Fits := by
  have fits : ∀ entry ∈ forgingEntries, entry.Fits := by
    intro entry listed
    obtain rfl | rfl : entry = _ ∨ entry = _ := by simpa [forgingEntries] using listed
    · decide
    · decide
  have closed : "[]\n".toUTF8.data.toList.getLast? = some Text.newline := rfl
  obtain ⟨content, read, framed⟩ := events_framed recordingSettings "events.jsonl" begunTree _ rfl
    (fun last ended => Option.some.inj (ended.symm.trans closed)) forgingEntries
  exact ⟨_, content, rfl, read, framed, fits⟩

end Config

end FormEngine
