import FormEngine.Proofs.Integration.Teardown
import FormEngine.Proofs.Schema.DisplayOrder

/-!
The numbers under which integrations report. Workers are created in the order in which the
integrations of a form are collected, and a turn records in the name of its worker, so the number of
an event is the position of its integration in that order.
-/

namespace FormEngine

namespace Integration

section Names

/-- A turn so far: it leaves the worker its number and its integration, and records under both. -/
structure Signed (worker : Worker) (turn : Worker × List Effect) : Prop where
  index : turn.1.index = worker.index
  integration : turn.1.integration = worker.integration
  records : ∀ event ∈ records turn.2,
    event.integration = worker.index ∧ event.endpoint = worker.integration.endpoint

variable (worker : Worker) (turn : Worker × List Effect)

theorem signed_begin : Signed worker (worker, []) :=
  ⟨rfl, rfl, fun event listed => by simp [Integration.records] at listed⟩

theorem signed_more (next : Worker × List Effect) (signed : Signed worker turn)
    (index : next.1.index = turn.1.index) (integration : next.1.integration = turn.1.integration)
    (happenings : List Happening)
    (recorded : records next.2 = records turn.2 ++ happenings.map fun happening =>
      ⟨turn.1.index, turn.1.integration.endpoint, happening⟩) :
    Signed worker next := by
  constructor
  case index => exact index.trans signed.index
  case integration => exact integration.trans signed.integration
  case records =>
    intro event listed
    rw [recorded] at listed
    rcases List.mem_append.mp listed with before | here
    · exact signed.records event before
    · obtain ⟨happening, _, rfl⟩ := List.mem_map.mp here
      exact ⟨signed.index, congrArg FormEngine.Integration.endpoint signed.integration⟩

theorem signed_same (next : Worker × List Effect) (signed : Signed worker turn)
    (index : next.1.index = turn.1.index) (integration : next.1.integration = turn.1.integration)
    (recorded : records next.2 = records turn.2) : Signed worker next :=
  signed_more worker turn next signed index integration [] (by simp [recorded])

theorem signed_enter (phase : Phase) (signed : Signed worker turn) :
    Signed worker (Worker.enter phase turn) := by
  unfold Worker.enter
  split
  · exact signed
  · refine signed_more worker turn _ signed rfl rfl [.entered phase] ?_
    exact records_append turn.2 _

theorem signed_await (now : Nat) (signed : Signed worker turn) :
    Signed worker (Worker.await now turn) := by
  unfold Worker.await
  split
  · exact signed_enter worker _ .debouncing (signed_same worker turn _ signed rfl rfl rfl)
  · exact signed_enter worker _ .idle (signed_same worker turn _ signed rfl rfl rfl)

theorem signed_abandon (signed : Signed worker turn) : Signed worker (Worker.abandon turn) := by
  unfold Worker.abandon
  split
  · exact signed
  · refine signed_enter worker _ .aborted (signed_same worker turn _ signed rfl rfl ?_)
    exact (records_append turn.2 _).trans (List.append_nil _)

theorem signed_fail (left : Worker) (message : String) (signed : Signed worker (left, [])) :
    Signed worker (left.failWith message) :=
  signed_enter worker _ .failed
    (signed_more worker (left, []) _ signed rfl rfl [.failed message] rfl)

theorem signed_settle (left : Worker) (outcome : Lookup.Outcome)
    (signed : Signed worker (left, [])) : Signed worker (left.settle outcome) := by
  unfold Worker.settle
  split
  · exact signed_enter worker _ .applied signed
  · rename_i values
    exact signed_enter worker _ .applied
      (signed_same worker (left, []) _ signed rfl rfl (records_writes left values))
  · exact signed_enter worker _ .aborted signed
  · exact signed_fail worker left _ signed
  · exact signed_fail worker left _ signed

end Names

section Turns

variable (view : View) (worker : Worker)

theorem start_signed : Signed worker (worker.start view) := by
  have begun := signed_begin worker
  unfold Worker.start
  dsimp only
  split
  · exact signed_same worker _ _ begun rfl rfl (records_registered _)
  · exact signed_await worker _ view.now
      (signed_same worker _ _ begun rfl rfl (records_registered _))

theorem stop_signed : Signed worker worker.stop :=
  signed_same worker _ _ (signed_abandon worker _ (signed_begin worker)) rfl rfl rfl

theorem notice_signed : Signed worker (worker.notice view) := by
  have begun := signed_begin worker
  unfold Worker.notice
  dsimp only
  split
  · exact signed_same worker _ _ begun rfl rfl rfl
  · exact signed_await worker _ view.now
      (signed_abandon worker _ (signed_same worker _ _ begun rfl rfl rfl))

theorem fire_signed : Signed worker (worker.fire view) := by
  have begun : Signed worker ({ worker with deadline := none }, []) :=
    signed_same worker _ _ (signed_begin worker) rfl rfl rfl
  unfold Worker.fire
  dsimp only
  split
  · exact signed_enter worker _ .idle begun
  · split
    · exact signed_enter worker _ .inFlight (signed_same worker _ _ begun rfl rfl rfl)
    · exact signed_enter worker _ .idle
        (signed_more worker _ _ begun rfl rfl [.rejected] rfl)

theorem complete_signed (outcome : Lookup.Outcome) :
    Signed worker (worker.complete view outcome) := by
  have begun : Signed worker ({ worker with inFlight := none }, []) :=
    signed_same worker _ _ (signed_begin worker) rfl rfl rfl
  unfold Worker.complete
  dsimp only
  split
  · exact signed_enter worker _ .aborted begun
  · exact signed_enter worker _ .idle (signed_settle worker _ outcome begun)

/-- Every turn records in the name of its worker. -/
theorem turn_signed (taken : Worker × List Effect) (turn : worker.turn? view = some taken) :
    Signed worker taken := by
  cases turn_choice view worker taken turn with
  | start => exact start_signed view worker
  | stop => exact stop_signed worker
  | notice => exact notice_signed view worker
  | fire => exact fire_signed view worker
  | complete number outcome => exact complete_signed view worker outcome

end Turns

section Sessions

variable (integrations : List FormEngine.Integration)

/-- An event bears the position of an integration, and its endpoint. -/
def Attributed (event : Event) : Prop :=
  ∃ integration, integrations[event.integration]? = some integration ∧
    event.endpoint = integration.endpoint

/-- The workers of a session stand for the integrations in their order, and whatever the worker of
one of them records, it records under the position of that one. -/
structure Numbered (session : Session) : Prop where
  workers : session.workers.map (fun worker => (worker.integration, worker.index)) =
    integrations.zipIdx
  events : ∀ event ∈ session.events, Attributed integrations event
  turns : ∀ (setup : Setup) (position : Nat) (next : Session),
    session.workerTurn? setup position = some next →
      ∃ added, next.events = session.events ++ added ∧
        ∀ event ∈ added, event.integration = position ∧ Attributed integrations event

variable (session next : Session) (ordered : Ordered integrations session)

include ordered

theorem workers_numbered :
    session.workers.map (fun worker => (worker.integration, worker.index)) =
      integrations.zipIdx := by
  apply List.ext_getElem?
  intro position
  rw [List.getElem?_map, List.getElem?_zipIdx, ← ordered.planned, List.getElem?_map]
  cases found : session.workers[position]? with
  | none => rfl
  | some worker => simp [(ordered.orderly position worker found).index]

theorem turn_attributed (setup : Setup) (position : Nat)
    (turn : session.workerTurn? setup position = some next) :
    ∃ added, next.events = session.events ++ added ∧
      ∀ event ∈ added, event.integration = position ∧ Attributed integrations event := by
  obtain ⟨worker, after, effects, found, taken, same⟩ :=
    worker_turn_effects setup position session next turn
  have signed := turn_signed _ worker (after, effects) taken
  have index := (ordered.orderly position worker found).index
  have listed : integrations[position]? = some worker.integration := by
    rw [← ordered.planned, List.getElem?_map, found]
    rfl
  refine ⟨records effects, by rw [same], ?_⟩
  intro event recorded
  obtain ⟨number, endpoint⟩ := signed.records event recorded
  have here := number.trans index
  exact ⟨here, worker.integration, here ▸ listed, endpoint⟩

-- Only the turns of workers record anything.
theorem step_attributed (setup : Setup) (move : Move) (step : Step setup session move next)
    (before : ∀ event ∈ session.events, Attributed integrations event) :
    ∀ event ∈ next.events, Attributed integrations event := by
  cases step with
  | work position next turn =>
      obtain ⟨added, grown, attributed⟩ :=
        turn_attributed integrations session next ordered setup position turn
      intro event listed
      rw [grown] at listed
      rcases List.mem_append.mp listed with old | new
      · exact before event old
      · exact (attributed event new).2
  | _ => exact before

omit ordered

theorem run_numbered (setup : Setup) (values : FormValues) (fallback : Nat)
    (reached : Reachable setup (Session.create values fallback integrations) session) :
    Numbered integrations session := by
  have ordered := reachable_ordered setup values fallback integrations session reached
  constructor
  case workers => exact workers_numbered integrations session ordered
  case turns =>
    intro other position next turn
    exact turn_attributed integrations session next ordered other position turn
  case events =>
    clear ordered
    induction reached with
    | start =>
        intro event listed
        cases listed
    | step session next move reached step ih =>
        have ordered := reachable_ordered setup values fallback integrations session reached
        exact step_attributed integrations session next ordered setup move step ih

end Sessions

end Integration

namespace FormSchema

/-- What collects the integrations of a form comes to an end after one visit for each field, with
those of the form first and then those of the fields in display order. By position each field
stands before those below it, and before its later siblings with all below them; a field is there
once for each position, so its integration is as well. The workers for a form report under their
places in this order. -/
structure CollectedInOrder (schema : FormSchema) : Prop where
  ends : schema.search.after (fieldCountAll schema.fields) = some ⟨schema.allIntegrations, []⟩
  outlined : schema.allIntegrations = schema.integrations ++
    schema.outline.filterMap fun entry => entry.2.info.integration
  placed : ∃ declared : List (List Nat × Integration),
    schema.allIntegrations = schema.integrations ++ declared.map Prod.snd ∧
    (declared.Pairwise fun first second => first.1 < second.1) ∧
    ∀ position integration, (position, integration) ∈ declared ↔
      ∃ above field, Field.placeAt? position schema.fields = some (above, field) ∧
        field.info.integration = some integration
  numbered : ∀ (setup : Integration.Setup) (values : FormValues) (fallback : Nat)
    (session : Integration.Session),
    Integration.Reachable setup
      (Integration.Session.create values fallback schema.allIntegrations) session →
    Integration.Numbered schema.allIntegrations session

variable (schema : FormSchema)

theorem search_start : schema.search = ⟨schema.integrations, schema.fields⟩ := by
  rw [search, Search.push_reversed, List.append_nil]

theorem all_declared :
    schema.allIntegrations = schema.integrations ++ Field.declaredAll schema.fields := by
  rw [allIntegrations, search_start, Search.finish_found]

theorem integrations_collected_in_order : schema.CollectedInOrder := by
  constructor
  case ends =>
    rw [search_start, all_declared]
    exact Search.ends_after ⟨schema.integrations, schema.fields⟩
  case outlined => rw [all_declared, Field.declared_outline_all "", outline]
  case placed =>
    refine ⟨Field.declarations schema.fields, ?_, Field.declarations_rising schema.fields,
      Field.mem_declarations schema.fields⟩
    rw [all_declared, Field.declarations_declared]
  case numbered =>
    intro setup values fallback session reached
    exact Integration.run_numbered schema.allIntegrations session setup values fallback reached

end FormSchema

end FormEngine
