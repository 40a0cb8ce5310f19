import FormEngine.Lookup.Endpoint
import FormEngine.Proofs.Files.Path
import FormEngine.Proofs.Integration.Lookups
import FormEngine.Proofs.Keyed

/-!
What look-ups send and what is read of it. Full paths and last segments share one set of keys, so a
payload is told key by key: under a full path stands the text of the last source with that path, and
under any other key that of the last source which ends in it. The receiving side lays a payload out
in the same way. What is laid out once has every last segment among its keys, so laying it out again
changes nothing and the tables are asked for the texts that were sent.
-/

namespace FormEngine

namespace Path

theorem last_segment_chars (path : String) :
    lastSegment path =
      String.ofList (path.toList.reverse.takeWhile fun char => char != '.').reverse := by
  rw [lastSegment, segments, List.getLastD_eq_getLast?, List.getLast?_map, Text.split_chars_last]
  rfl

theorem last_segment_whole (path : String) : '.' ∉ (lastSegment path).toList := by
  rw [last_segment_chars, String.toList_ofList]
  intro present
  have passed := List.all_eq_true.mp List.all_takeWhile '.' (List.mem_reverse.mp present)
  simp at passed

/-- A last segment ends in itself. -/
@[simp]
theorem last_segment_twice (path : String) : lastSegment (lastSegment path) = lastSegment path := by
  rw [lastSegment, segments, Text.split_chars_whole '.' _ (last_segment_whole path)]
  simp

end Path

namespace Lookup

/-- What an endpoint answers to the texts that are read under the keys of its table. -/
def answerFrom (value : String → Option String) (endpoint : String) : Option FormValues :=
  if endpoint = addressEndpoint then
    ((value "postalCode").or (value "contactInfo.postalCode")).bind addressFor
  else if endpoint = companyEndpoint then
    ((value "eik").or (value "bulstat")).bind companyFor
  else if endpoint = documentEndpoint then
    some (documentCheck ((value "documentType").getD "") ((value "documentNumber").getD ""))
  else none

/-- A payload counts only through what its completed form holds. -/
theorem answer_read (endpoint : String) (payload : Payload) :
    answer endpoint payload =
      answerFrom (fun key => Keyed.find? key payload.complete) endpoint := rfl

end Lookup

namespace Payload

open Keyed (find? keys Sorted)

section Laying

/-- Texts under their last segments first, and then under their full paths. -/
def laidOut (texts : List (String × String)) : Payload := underPaths texts (underSegments texts [])

def bySegment (texts : List (String × String)) : List (String × String) :=
  texts.map fun entry => (Path.lastSegment entry.1, entry.2)

variable (texts : List (String × String)) (key : String)

theorem laid_out_merge : laidOut texts = Keyed.merge (Keyed.ofList (bySegment texts)) texts := by
  rw [laidOut, underPaths, underSegments, Keyed.merge, Keyed.ofList, bySegment, List.foldl_map]

theorem laid_out_sorted : Sorted (laidOut texts) := by
  rw [laid_out_merge]
  exact Keyed.merge_sorted _ texts (Keyed.of_list_sorted _)

theorem find_laid_out :
    find? key (laidOut texts) =
      (find? key texts.reverse).or (find? key (bySegment texts).reverse) := by
  rw [laid_out_merge, Keyed.find_merge, Keyed.find_of_list]

theorem mem_keys_laid_out :
    key ∈ keys (laidOut texts) ↔
      key ∈ keys texts ∨ ∃ path ∈ keys texts, Path.lastSegment path = key := by
  have paths := Keyed.mem_keys key texts.reverse
  have segments := Keyed.mem_keys key (bySegment texts).reverse
  rw [Keyed.mem_keys, find_laid_out]
  rw [← Option.isSome_iff_exists] at paths segments ⊢
  rw [Option.isSome_or, Bool.or_eq_true, ← paths, ← segments]
  simp [keys, bySegment]

/-- The last segment of a key is a key itself. -/
theorem laid_out_closed (present : key ∈ keys (laidOut texts)) :
    Path.lastSegment key ∈ keys (laidOut texts) := by
  rw [mem_keys_laid_out] at present ⊢
  rcases present with path | ⟨path, listed, rfl⟩
  · exact Or.inr ⟨key, path, rfl⟩
  · exact Or.inr ⟨path, listed, (Path.last_segment_twice path).symm⟩

end Laying

section Completion

variable (payload : Payload) (sorted : Sorted payload)

include sorted

/-- A full key keeps its text. -/
theorem find_complete (key text : String) (found : find? key payload = some text) :
    find? key payload.complete = some text := by
  have once := Keyed.find_reverse payload (Keyed.sorted_distinct payload sorted) key
  have laid := find_laid_out payload key
  rw [once, found, Option.some_or] at laid
  exact laid

-- Every key that the segments could add is there already, and what is there wins.
theorem complete_of_closed (closed : ∀ key ∈ keys payload, Path.lastSegment key ∈ keys payload) :
    payload.complete = payload := by
  refine Keyed.sorted_ext _ _ (laid_out_sorted payload) sorted fun key => ?_
  cases held : find? key payload with
  | some text => exact find_complete payload sorted key text held
  | none =>
      have absent : key ∉ keys payload := by
        rw [Keyed.mem_keys, held]
        simp
      have foreign : key ∉ keys payload.complete := by
        intro present
        rcases (mem_keys_laid_out payload key).mp present with path | ⟨path, listed, rfl⟩
        · exact absent path
        · exact absent (closed path listed)
      exact Keyed.find_foreign _ key foreign

end Completion

theorem complete_laid_out (texts : List (String × String)) :
    (laidOut texts).complete = laidOut texts :=
  complete_of_closed _ (laid_out_sorted texts) (laid_out_closed texts)

section Building

variable (sources : List String) (values : List (Option FormValue))

/-- The text of the last source that has such a name. -/
def lastText (named : String → Bool) : Option String :=
  ((sources.zip values).reverse.find? fun entry => named entry.1).bind fun entry =>
    entry.2.bind FormValue.payloadText

/-- What is sent under a key: a source with that path comes before all that end in it. -/
def sent (key : String) : Option String :=
  if key ∈ sources then lastText sources values (· = key)
  else lastText sources values (Path.lastSegment · = key)

/-- Texts and flags; a text is not empty. -/
theorem sendable_iff :
    Integration.Sendable values ↔
      ∀ value ∈ values, (∃ text, value = some (.text text) ∧ text ≠ "") ∨
        ∃ flag, value = some (.flag flag) := by
  refine forall₂_congr fun value _ => ?_
  rcases value with _ | held
  · simp
  · cases held with
    | text text => simp [FormValue.payloadText]
    | flag flag => cases flag <;> simp [FormValue.payloadText]
    | group entries => simp [FormValue.payloadText]

variable (texts : List (String × String)) (aligned : values.length = sources.length)
  (made : texts? sources values = some texts)

include aligned made

theorem texts_of_values :
    (sources.zip values).map (fun entry => (entry.1, entry.2.bind FormValue.payloadText)) =
      texts.map fun entry => (entry.1, some entry.2) := by
  induction sources generalizing values texts with
  | nil =>
      obtain rfl := List.length_eq_zero_iff.mp aligned
      cases made
      rfl
  | cons source sources ih =>
      cases values with
      | nil => simp at aligned
      | cons value values =>
          rw [texts?] at made
          cases held : value.bind FormValue.payloadText with
          | none => simp [held] at made
          | some text =>
              by_cases empty : text.isEmpty = true
              · simp [held, empty] at made
              · rw [held] at made
                simp only [empty, Bool.false_eq_true, ↓reduceIte] at made
                obtain ⟨rest, later, rfl⟩ := Option.map_eq_some_iff.mp made
                have tail := ih values rest (Nat.succ.inj aligned) later
                simp [held, tail]

theorem keys_of_texts : keys texts = sources := by
  have names := congrArg (List.map Prod.fst) (texts_of_values sources values texts aligned made)
  rw [List.map_map, List.map_map] at names
  have paths := List.map_fst_zip (Nat.le_of_eq aligned.symm)
  exact names.symm.trans paths

theorem last_text_made (named : String → Bool) :
    lastText sources values named =
      (texts.reverse.find? fun entry => named entry.1).map Prod.snd := by
  have same := congrArg List.reverse (texts_of_values sources values texts aligned made)
  have found := congrArg (fun entries : List (String × Option String) =>
    (entries.find? fun entry => named entry.1).bind Prod.snd) same
  simp only [← List.map_reverse, List.find?_map, Option.bind_map, Function.comp_def] at found
  rw [lastText, Option.map_eq_bind]
  exact found

/-- A payload holds what is sent under each key, and nothing else. -/
theorem find_made (key : String) : find? key (laidOut texts) = sent sources values key := by
  have listed : key ∈ keys texts.reverse ↔ key ∈ sources := by
    rw [← keys_of_texts sources values texts aligned made]
    simp [keys]
  have found := last_text_made sources values texts aligned made
  have turned : (bySegment texts).reverse = bySegment texts.reverse := List.map_reverse.symm
  rw [find_laid_out, turned, sent, found, found]
  by_cases present : key ∈ sources
  · obtain ⟨text, under⟩ := (Keyed.mem_keys key _).mp (listed.mpr present)
    rw [if_pos present, under, Option.some_or, ← under, Keyed.find_entry]
  · have foreign := Keyed.find_foreign _ key (mt listed.mp present)
    rw [if_neg present, foreign, Option.none_or, Keyed.find_entry, bySegment, List.find?_map,
      Option.map_map]
    rfl

end Building

/-- A payload made of the values of its sources. -/
structure Faithful (sources : List String) (values : List (Option FormValue)) (payload : Payload) :
    Prop where
  held : ∀ key, find? key payload = sent sources values key
  settled : payload.complete = payload
  -- What the receiver reads under the path of a source is what was sent for it.
  read : ∀ source ∈ sources, ∃ text, lastText sources values (· = source) = some text ∧
    find? source payload.complete = some text
  answered : ∀ endpoint,
    Lookup.answer endpoint payload = Lookup.answerFrom (sent sources values) endpoint

section Faithfulness

variable (sources : List String) (values : List (Option FormValue))
  (aligned : values.length = sources.length)

include aligned

theorem built_faithful (payload : Payload) (built : build? sources values = some payload) :
    Faithful sources values payload := by
  obtain ⟨texts, made, rfl⟩ := Option.map_eq_some_iff.mp built
  have held := find_made sources values texts aligned made
  have settled := complete_laid_out texts
  constructor
  case held => exact held
  case settled => exact settled
  case read =>
    intro source listed
    have present : source ∈ keys (laidOut texts) := by
      rw [mem_keys_laid_out, keys_of_texts sources values texts aligned made]
      exact Or.inl listed
    obtain ⟨text, found⟩ := (Keyed.mem_keys source _).mp present
    have under := held source
    rw [found, sent, if_pos listed] at under
    exact ⟨text, under.symm, (congrArg (find? source) settled).trans found⟩
  case answered =>
    intro endpoint
    rw [Lookup.answer_read]
    exact congrArg (Lookup.answerFrom · endpoint)
      (funext fun key => (congrArg (find? key) settled).trans (held key))

/-- Payloads are complete, unambiguous and settled: one is made exactly of sources that all have a
text, it holds what is sent under each key, and completing it changes nothing. -/
theorem payloads_settled :
    ((build? sources values).isSome = true ↔
      ∀ value ∈ values, (∃ text, value = some (.text text) ∧ text ≠ "") ∨
        ∃ flag, value = some (.flag flag)) ∧
    (∀ payload, build? sources values = some payload → Faithful sources values payload) ∧
    (∀ payload : Payload, Sorted payload →
      payload.complete.complete = payload.complete ∧
        ∀ key text, find? key payload = some text → find? key payload.complete = some text) := by
  refine ⟨?_, ?_, ?_⟩
  · rw [Integration.build_sendable sources values aligned, sendable_iff]
  · exact built_faithful sources values aligned
  · intro payload sorted
    exact ⟨complete_laid_out payload, find_complete payload sorted⟩

end Faithfulness

section Addresses

/-- Three sources end alike; one of them is the last segment of all three. -/
def addressSources : List String := ["contactInfo.postalCode", "postalCode", "old.postalCode"]

def addressTexts : List (Option FormValue) :=
  [some (.text "4000"), some (.text "1000"), some (.flag true)]

theorem full_path_sent :
    ∃ payload, build? addressSources addressTexts = some payload ∧
      find? "postalCode" payload = some "1000" ∧
      find? "contactInfo.postalCode" payload.complete = some "4000" ∧
      Lookup.answer Lookup.addressEndpoint payload = Lookup.addressFor "1000" := by
  obtain ⟨made, faithful, _⟩ := payloads_settled addressSources addressTexts rfl
  have sendable := made.mpr (by simp [addressTexts])
  obtain ⟨payload, built⟩ := Option.isSome_iff_exists.mp sendable
  have faithful := faithful payload built
  refine ⟨payload, built, ?_, ?_, ?_⟩
  · exact (faithful.held _).trans (by decide)
  · rw [faithful.settled]
    exact (faithful.held _).trans (by decide)
  · rw [faithful.answered]
    decide

end Addresses

end Payload

end FormEngine
