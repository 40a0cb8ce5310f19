import FormEngine.Proofs.Integration.Ties

/-!
Unrelated edits leave an integration alone. What a worker launches, records and writes, and when, is
determined by what its sources hold at first and by what it is told at what time: writes to paths that
a source leads to or starts from, resets, answers and teardowns. Other writes are not told, however
many they are, and neither are the turns of workers that write elsewhere. Ties are another matter: of
things that happen at one instant the worker may see some together or one by one.
-/

namespace FormEngine.Integration

variable (setup : Setup) (integration : FormEngine.Integration)

/-- A move that tells the worker nothing leaves its account as it is. -/
theorem unheard (position : Nat) (session : Session) (account : Account) (worker : Worker)
    (move : Move) (found : session.workers[position]? = some worker)
    (quiet : acted setup position session worker move = none)
    (still : ∀ later, move ≠ .elapse later)
    (inert : heard setup position session worker move = []) :
    session.tellings setup position move = [] ∧
      account.follow setup position session move = account := by
  constructor
  · simp [Session.tellings, found, inert]
  · rw [follow_hear setup session account position worker move found quiet still, inert,
      Account.hear_nothing]

section Unheard

variable (integrations : List FormEngine.Integration) (position : Nat) (session : Session)
  (account : Account) (listed : integrations[position]? = some integration)
  (ordered : Ordered integrations session)

include listed ordered

theorem worker_planned : ∃ worker, session.workers[position]? = some worker ∧
    worker.integration = integration := by
  have planned : (session.workers.map Worker.integration)[position]? = some integration := by
    rw [ordered.planned]
    exact listed
  rw [List.getElem?_map] at planned
  exact Option.map_eq_some_iff.mp planned

/-- A write elsewhere is not told. -/
theorem write_unheard (path : String) (value : FormValue)
    (apart : ∀ source ∈ integration.sources, Path.Incomparable path source) :
    session.tellings setup position (.write path value) = [] ∧
      account.follow setup position session (.write path value) = account := by
  obtain ⟨worker, found, runs⟩ := worker_planned integration integrations position session listed
    ordered
  have quiet : heard setup position session worker (.write path value) = [] := by
    apply unconcerned
    intro entry only source read
    rw [List.mem_singleton.mp only]
    exact apart source (runs ▸ read)
  exact unheard setup position session account worker _ found rfl (by simp) quiet

/-- Neither is anything that a worker does whose targets are elsewhere. -/
theorem work_unheard (other : Nat) (different : other ≠ position) (rival : FormEngine.Integration)
    (against : integrations[other]? = some rival)
    (apart : ∀ target ∈ rival.targets, ∀ source ∈ integration.sources,
      Path.Incomparable target source) :
    session.tellings setup position (.work other) = [] ∧
      account.follow setup position session (.work other) = account := by
  obtain ⟨worker, found, runs⟩ := worker_planned integration integrations position session listed
    ordered
  obtain ⟨mover, there, moves⟩ := worker_planned rival integrations other session against ordered
  have quiet : concerning worker.integration.sources (session.writesAt setup other) = [] := by
    apply unconcerned
    intro entry wrote source read
    unfold Session.writesAt at wrote
    cases taken : session.turnAt setup other with
    | none => simp [taken] at wrote
    | some turn =>
        rw [taken] at wrote
        rw [turn_at setup other session mover there] at taken
        have declared := written_targets mover _ turn.1 turn.2 taken entry wrote
        exact apart entry.1 (moves ▸ declared) source (runs ▸ read)
  have inert : heard setup position session worker (.work other) = [] := by
    rw [heard, if_neg different, quiet]
  exact unheard setup position session account worker _ found (by simp [acted, different]) (by simp)
    inert

end Unheard

section Alike

variable (values beginning : FormValues) (pace fallback position place : Nat)
  (integrations company : List FormEngine.Integration)

/-- A worker that was told the same at the same places does the same, in any company. -/
theorem reports_alike (listed : integrations[position]? = some integration)
    (present : company[place]? = some integration)
    (paced : integration.effectiveDebounce fallback = integration.effectiveDebounce pace)
    (alike : ∀ source ∈ integration.sources, beginning.source source = values.source source)
    (told again : List Telling) (account sibling : Account) (session other : Session)
    (run : Course setup position (Session.create values pace integrations) told account session)
    (rerun : Course setup place (Session.create beginning fallback company) again sibling other)
    (same : sibling.notices = account.notices) (now : other.now = session.now) :
    (sibling.reports <+: account.reports ∨ account.reports <+: sibling.reports) ∧
      (session.workerTurn? setup position = none → other.workerTurn? setup place = none →
        sibling.reports = account.reports) := by
  obtain ⟨consistent, _⟩ := course_sound setup values pace integrations position told account session
    run
  obtain ⟨sound, _⟩ := course_sound setup beginning fallback company place again sibling other rerun
  obtain ⟨solo, worker, fellow, alone, mirrors⟩ := course_accompanied setup values values pace pace
    integration integrations position listed rfl (fun _ _ => rfl) told account session run
  obtain ⟨twin, mate, companion, apart, mirrored⟩ := course_accompanied setup values beginning pace
    fallback integration company place present paced alike again sibling other rerun
  have times : twin.now = solo.now := mirrored.now.symm.trans (now.trans mirrors.now)
  constructor
  · rcases Nat.le_total sibling.place account.place with behind | ahead
    · exact Or.inl (alone_behind setup _ solo account sibling twin alone apart same times behind)
    · exact Or.inr
        (alone_behind setup _ twin sibling account solo apart alone same.symm times.symm ahead)
  · intro rests restful
    have still := rests_alone setup values pace integration position account session solo worker
      fellow consistent alone mirrors (still_turn setup position session rests)
    have quiet := rests_alone setup values pace integration place sibling other twin mate companion
      sound apart mirrored (still_turn setup place other restful)
    exact alone_determined setup _ solo account sibling twin alone apart same times still quiet

/-- Whatever a worker was told in company, it can be told alone, and does the same then. -/
theorem alone_alike (listed : integrations[position]? = some integration) (told : List Telling)
    (account : Account) (session : Session)
    (run : Course setup position (Session.create values pace integrations) told account session) :
    ∃ tellings lone solo, Course setup 0 (Session.create values pace [integration]) tellings lone
      solo ∧ lone.notices = account.notices ∧ solo.now = session.now ∧
      lone.reports = account.reports ∧
      (session.workerTurn? setup position = none → solo.workerTurn? setup 0 = none) := by
  obtain ⟨consistent, _⟩ := course_sound setup values pace integrations position told account session
    run
  obtain ⟨solo, worker, fellow, alone, mirrors⟩ := course_accompanied setup values values pace pace
    integration integrations position listed rfl (fun _ _ => rfl) told account session run
  obtain ⟨_, course⟩ := alone_course setup _ solo account alone
  obtain ⟨tellings, glanced⟩ := glanced_course setup _ solo account _ course
  refine ⟨tellings, account, solo.glanced setup, glanced, rfl,
    (glanced_now setup solo).trans mirrors.now.symm, rfl, ?_⟩
  intro rests
  have still := rests_alone setup values pace integration position account session solo worker fellow
    consistent alone mirrors (still_turn setup position session rests)
  rw [worker_turn_at, still, Option.map_none]

end Alike

/-- An integration is disturbed by nothing that has nothing to do with its sources. Of two courses in
which it was told the same at the same times by now, and no tellings tie, it has reported in one what
it has reported so far in the other, and all of it once it rests, whatever its company. It can be told
the same alone, and reports the same then. Writes elsewhere, and workers that write elsewhere, tell it
nothing. -/
theorem undisturbed_by_unrelated (values : FormValues) (pace position : Nat)
    (integrations : List FormEngine.Integration)
    (listed : integrations[position]? = some integration) (told : List Telling) (account : Account)
    (session : Session)
    (run : Course setup position (Session.create values pace integrations) told account session) :
    (∀ (beginning : FormValues) (fallback place : Nat) (company : List FormEngine.Integration)
      (sibling : Account) (other : Session), company[place]? = some integration →
      integration.effectiveDebounce fallback = integration.effectiveDebounce pace →
      (∀ source ∈ integration.sources, beginning.source source = values.source source) →
      Course setup place (Session.create beginning fallback company) told sibling other →
      Spaced (integration.effectiveDebounce pace) told → other.now = session.now →
      (sibling.reports <+: account.reports ∨ account.reports <+: sibling.reports) ∧
        (session.workerTurn? setup position = none → other.workerTurn? setup place = none →
          sibling.reports = account.reports)) ∧
    (∃ tellings lone solo, Course setup 0 (Session.create values pace [integration]) tellings lone
      solo ∧ lone.notices = account.notices ∧ solo.now = session.now ∧
      lone.reports = account.reports ∧
      (session.workerTurn? setup position = none → solo.workerTurn? setup 0 = none)) ∧
    (∀ (path : String) (value : FormValue),
      (∀ source ∈ integration.sources, Path.Incomparable path source) →
      session.tellings setup position (.write path value) = [] ∧
        account.follow setup position session (.write path value) = account) ∧
    ∀ (other : Nat) (rival : FormEngine.Integration), other ≠ position →
      integrations[other]? = some rival →
      (∀ target ∈ rival.targets, ∀ source ∈ integration.sources,
        Path.Incomparable target source) →
      session.tellings setup position (.work other) = [] ∧
        account.follow setup position session (.work other) = account := by
  obtain ⟨_, ordered⟩ := course_sound setup values pace integrations position told account session run
  refine ⟨?_, ?_, ?_, ?_⟩
  · intro beginning fallback place company sibling other present paced alike again spaced now
    have same := notices_alike setup values beginning pace fallback position place integration
      integrations company listed present paced alike told account sibling session other run again
      spaced
    exact reports_alike setup integration values beginning pace fallback position place integrations
      company listed present paced alike told told account sibling session other run again same now
  · exact alone_alike setup integration values pace position integrations listed told account session
      run
  · intro path value apart
    exact write_unheard setup integration integrations position session account listed ordered path
      value apart
  · intro other rival different against apart
    exact work_unheard setup integration integrations position session account listed ordered other
      different rival against apart

section City

/-- A second integration, which fills in what the first does not look at. -/
def zoneLookup : FormEngine.Integration :=
  { endpoint := "zoneOf", sources := ["note"], targets := ["zone"], debounce := some 20 }

/-- The same code in another form, and in the company of the second integration. -/
def noteForm : Session :=
  Session.create [("code", .text "1000"), ("note", .text "draft")] 500 [zoneLookup, cityLookup]

/-- The code is corrected while its lookup is waiting for its time. -/
def corrected : List Telling := [⟨100, [.write "code" (.text "1784")]⟩]

def correcting : List Move :=
  [.work 0, .elapse 100, .write "code" (.text "1784"), .work 0, .elapse 600, .work 0]

/-- Notes are taken before and after the correction. -/
def correctingNoted : List Move :=
  [.work 1, .write "note" (.text "revised"), .work 1, .elapse 100,
    .write "code" (.text "1784"), .work 1, .elapse 300, .write "note" (.text "final"), .work 1,
    .elapse 600, .work 1]

/-- The city is looked up at the same time for the same code, whatever is noted. -/
theorem city_undisturbed_by_note : ∃ sibling other,
    Course citySetup 1 noteForm corrected sibling other ∧
      sibling.reports.map Report.time = [0, 100, 600] ∧
      sibling.reports.map Report.launched = [[], [], [("cityOf", [("code", "1784")])]] := by
  have plain := script_course citySetup 0 cityForm correcting
    (fun stretch => stretch.endsWith citySetup 0 corrected 600 &&
      decide (stretch.account.reports.map Report.time = [0, 100, 600]) &&
      decide (stretch.account.reports.map Report.launched =
        [[], [], [("cityOf", [("code", "1784")])]]))
    (by decide +kernel)
  have noted := script_course citySetup 1 noteForm correctingNoted
    (Stretch.endsWith citySetup 1 corrected 600) (by decide +kernel)
  simp only [Stretch.endsWith, Bool.and_eq_true, decide_eq_true_eq, Option.isNone_iff_eq_none]
    at plain noted
  obtain ⟨_, account, session, run, ⟨⟨⟨rfl, now⟩, rests⟩, times⟩, launches⟩ := plain
  obtain ⟨_, sibling, other, again, ⟨rfl, later⟩, restful⟩ := noted
  have spaced : Spaced 500 corrected := ⟨by decide, by decide, by decide⟩
  have alike := ((undisturbed_by_unrelated citySetup cityLookup [("code", .text "1000")] 500 0
    [cityLookup] rfl corrected account session run).1 _ 500 1 [zoneLookup, cityLookup] sibling
    other rfl rfl (by decide +kernel) again spaced (later.trans now.symm)).2 rests restful
  exact ⟨sibling, other, again, alike ▸ times, alike ▸ launches⟩

end City

section Relay

/-- A form in which three look-ups hand on to one another: what is noted gives the code, the code the
city, and the seed the note. All of them are answered at once, and without a delay. -/
def relayForm : Session :=
  Session.create [("code", .text "1000"), ("seed", .text "s")] 0
    [⟨Lookup.companyEndpoint, ["note"], ["code"], none⟩,
      ⟨Lookup.addressEndpoint, ["code"], ["city"], none⟩,
      ⟨Lookup.documentEndpoint, ["seed"], ["note"], none⟩]

def relayAnswer : Lookup.Outcome :=
  .answered (some [("city", .text "Sofia"), ("code", .text "9"), ("note", .text "x")])

def relaySetup : Setup := ⟨.builtin, ⟨0, some [.fixed relayAnswer], true⟩⟩

def relayed (endpoint source text : String) : Lookup.Call :=
  { Lookup.Call.create endpoint [(source, text)] with outcome := some relayAnswer }

/-- What concerns the look-up of the city, all of it at the start. -/
def relayTold : List Telling :=
  [⟨0, [.answer relayAnswer]⟩, ⟨0, [.write "code" (.text "9")]⟩, ⟨0, [.answer relayAnswer]⟩]

/-- The note is filled in by its look-up only, after the city. -/
def relaying : List Move :=
  [.work 0, .work 1, .work 1, .work 2, .work 2,
    .answer 0 (relayed Lookup.addressEndpoint "code" "1000"),
    .answer 1 (relayed Lookup.documentEndpoint "seed" "s"),
    .work 1, .work 2, .work 2, .work 0, .work 0, .work 1,
    .answer 2 (relayed Lookup.companyEndpoint "note" "x"),
    .work 0, .work 1, .work 1,
    .answer 3 (relayed Lookup.addressEndpoint "code" "9"),
    .work 1]

/-- The note is taken before, so the code changes while the city is being looked up. -/
def relayingNoted : List Move :=
  [.write "note" (.text "x"), .work 0, .work 0, .work 1, .work 1, .work 2, .work 2,
    .answer 0 (relayed Lookup.companyEndpoint "note" "x"),
    .answer 1 (relayed Lookup.addressEndpoint "code" "1000"),
    .answer 2 (relayed Lookup.documentEndpoint "seed" "s"),
    .work 0, .work 1, .work 1,
    .answer 3 (relayed Lookup.addressEndpoint "code" "9"),
    .work 1, .work 1]

/-- Where tellings tie, a note that the look-up of the city does not read decides whether its first
answer is applied. In both courses it is told the same at the same times, and rests in the end. -/
theorem disturbed_at_tie : ∃ account sibling session other,
    Course relaySetup 1 relayForm relayTold account session ∧
      Course relaySetup 1 relayForm relayTold sibling other ∧
      session.now = 0 ∧ other.now = 0 ∧
      session.workerTurn? relaySetup 1 = none ∧ other.workerTurn? relaySetup 1 = none ∧
      account.reports.flatMap Report.happenings =
        [.debouncing, .inFlight, .applied, .idle, .debouncing, .inFlight, .applied, .idle].map
          .entered ∧
      sibling.reports.flatMap Report.happenings =
        [.debouncing, .inFlight, .aborted, .debouncing, .inFlight, .applied, .idle].map
          .entered := by
  have plain := script_course relaySetup 1 relayForm relaying
    (fun stretch => stretch.endsWith relaySetup 1 relayTold 0 &&
      decide (stretch.account.reports.flatMap Report.happenings =
        [.debouncing, .inFlight, .applied, .idle, .debouncing, .inFlight, .applied, .idle].map
          .entered))
    (by decide +kernel)
  have noted := script_course relaySetup 1 relayForm relayingNoted
    (fun stretch => stretch.endsWith relaySetup 1 relayTold 0 &&
      decide (stretch.account.reports.flatMap Report.happenings =
        [.debouncing, .inFlight, .aborted, .debouncing, .inFlight, .applied, .idle].map .entered))
    (by decide +kernel)
  simp only [Stretch.endsWith, Bool.and_eq_true, decide_eq_true_eq, Option.isNone_iff_eq_none]
    at plain noted
  obtain ⟨_, account, session, run, ⟨⟨rfl, now⟩, rests⟩, phases⟩ := plain
  obtain ⟨_, sibling, other, again, ⟨⟨rfl, later⟩, restful⟩, others⟩ := noted
  exact ⟨account, sibling, session, other, run, again, now, later, rests, restful, phases, others⟩

end Relay

end FormEngine.Integration
